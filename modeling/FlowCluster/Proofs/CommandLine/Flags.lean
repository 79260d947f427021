import FlowCluster.Proofs.CommandLine.Given
import Mathlib.Tactic.SplitIfs

/-! # Flags and the words that give them

A line that is understood has a flag exactly if the name of the flag, after two dashes, is one of its words. No word with
two dashes is taken for a value, a flag without a letter is given by its name alone, no variable gives one, and a name
that a scope does not know is not passed over. -/

namespace FlowCluster.CommandLine

variable {s : Scope} {a b : Argument} {p p' q : Progress} {e : Environment} {next : Option (Command × List String)}
  {name v : String} {value : Option String} {cs : List Char} {line rest : List String}

theorem bind_eq_ok {α β ε : Type} {x : Except ε α} {f : α → Except ε β} {y : β} (h : (x >>= f) = .ok y) :
    ∃ z, x = .ok z ∧ f z = .ok y := by
  cases x with
  | ok z => exact ⟨z, rfl, h⟩
  | error e => cases h

/-- The word that gives an argument by its name. -/
theorem eq_dashed_iff {word : String} : word = a.dashed ↔ word.toList = '-' :: '-' :: a.name.toList := by
  rw [← String.toList_inj, a.toList_dashed]

/-! ## One word -/

namespace Progress

/-- Whether the value of an argument is awaited or not yet looked at. -/
def Awaits (p : Progress) (a : Argument) : Prop := ∃ v, p.pending = some (a, v)

theorem not_awaits_of_none (h : p.pending = none) (a : Argument) : ¬p.Awaits a := by
  rintro ⟨v, hv⟩
  cases h.symm.trans hv

/-- What a part of a line does for an argument that takes no value: it gives the argument exactly if `now`. -/
structure Gains (p p' : Progress) (a : Argument) (now : Prop) : Prop where
  has_iff : p'.has a = true ↔ p.has a = true ∨ now
  idle : ¬p'.Awaits a

namespace Gains

variable {x y : Prop}

theorem refl (h : ¬p.Awaits a) : p.Gains p a False := ⟨by rw [or_false], h⟩

theorem trans (h : p.Gains p' a x) (h' : p'.Gains q a y) : p.Gains q a (x ∨ y) where
  has_iff := by rw [h'.has_iff, h.has_iff, or_assoc]
  idle := h'.idle

theorem congr (h : p.Gains p' a x) (hxy : x ↔ y) : p.Gains p' a y := ⟨by rw [h.has_iff, hxy], h.idle⟩

end Gains

theorem has_append (p : Progress) (b : Argument) (v : String) :
    ({ p with given := p.given ++ [(b, v)] } : Progress).has a = true ↔ p.has a = true ∨ b = a := by
  simp [has]

/-- What is accepted without complaint is new. -/
theorem accept_eq_none (h : p.accept b v = (p', none)) : p' = { p with given := p.given ++ [(b, v)] } := by
  rw [accept] at h
  split_ifs at h
  · cases h
  · dsimp only at h
    split at h
    · cases h
      rfl
    · cases h

end Progress

namespace Scope

open Progress

theorem proceed_eq_ok {x : Progress × Option Misuse} (h : s.proceed x = .ok p) : x = (p, none) := by
  obtain ⟨p', m⟩ := x
  cases m with
  | none =>
    cases h
    rfl
  | some m => cases h

theorem gains_of_accept (hp : p.pending = none) (h : s.proceed (p.accept b v) = .ok p') : p.Gains p' a (b = a) := by
  have hp' := accept_eq_none (proceed_eq_ok h)
  subst hp'
  exact ⟨p.has_append b v, not_awaits_of_none hp a⟩

/-- What is pending is not the argument, so it gives another one. -/
theorem gains_of_settled (hidle : ¬p.Awaits a) (h : s.settled p = .ok p') :
    p.Gains p' a False ∧ p'.pending = none := by
  rw [settled, settle] at h
  split at h
  · next hp =>
    cases h
    exact ⟨.refl hidle, hp⟩
  · cases h
  · next b v hp =>
    have hne : b ≠ a := by
      rintro rfl
      exact hidle ⟨_, hp⟩
    have hgains := gains_of_accept (a := a) rfl h
    have hp' := accept_eq_none (proceed_eq_ok h)
    subst hp'
    exact ⟨⟨hgains.has_iff.trans (or_congr_right (iff_false_intro hne)), hgains.idle⟩, rfl⟩

theorem gains_of_onSwitch (hidle : ¬p.Awaits a) (h : s.onSwitch p b = .ok p') : p.Gains p' a (b = a) := by
  obtain ⟨settled, hsettled, h⟩ := bind_eq_ok h
  obtain ⟨hgains, hpending⟩ := gains_of_settled hidle hsettled
  split at h
  · cases h
  · cases h
  · exact (hgains.trans (gains_of_accept hpending h)).congr (by rw [false_or])

/-- A flag that a scope has by its name, and that nothing else gives. -/
structure HasFlag (s : Scope) (a : Argument) : Prop where
  purpose : a.purpose = .flag none
  fallback : a.fallback = none
  named : a.name ≠ ""
  unmarked : '=' ∉ a.name.toList
  found : (s.arguments.find? fun b => b.name == a.name) = some a

theorem gains_of_onName (ha : s.HasFlag a) (hidle : ¬p.Awaits a) (h : s.onName p name value rest = .ok p') :
    p.Gains p' a (name = a.name ∧ value = none) := by
  rw [onName] at h
  split at h
  · cases h
  · next b hb =>
    have hname : b.name = name := by simpa using List.find?_some hb
    have hsame : name = a.name ↔ b = a := by
      constructor
      · rintro rfl
        exact Option.some.inj (hb.symm.trans ha.found)
      · rintro rfl
        exact hname.symm
    have hother {x y z} (hpurpose : b.purpose = .option x y z) : b ≠ a := by
      rintro rfl
      cases hpurpose.symm.trans ha.purpose
    rw [hsame]
    split at h
    · next hpurpose =>
      obtain ⟨settled, hsettled, h⟩ := bind_eq_ok h
      obtain ⟨hgains, hpending⟩ := gains_of_settled hidle hsettled
      exact (hgains.trans (gains_of_accept hpending h)).congr (by simp [hother hpurpose])
    · next hpurpose =>
      obtain ⟨settled, hsettled, h⟩ := bind_eq_ok h
      obtain ⟨hgains, hpending⟩ := gains_of_settled hidle hsettled
      cases h
      have hpends : ¬{ settled with pending := some (b, none) }.Awaits a := by
        rintro ⟨v, hv⟩
        cases hv
        exact hother hpurpose rfl
      exact ⟨hgains.has_iff.trans (or_congr_right (by simp [hother hpurpose])), hpends⟩
    · cases h
    · exact (gains_of_onSwitch hidle h).congr (by simp)

theorem gains_of_onLetters (ha : s.HasFlag a) (hidle : ¬p.Awaits a) (h : s.onLetters p cs = .ok p') :
    p.Gains p' a False := by
  induction cs generalizing p with
  | nil =>
    cases h
    exact .refl hidle
  | cons c cs ih =>
    rw [onLetters] at h
    split at h
    · cases h
    · next b hb =>
      obtain ⟨switched, hswitched, h⟩ := bind_eq_ok h
      have hne : b ≠ a := by
        rintro rfl
        have hshort := List.find?_some hb
        simp [Argument.short?, ha.purpose] at hshort
      have hgains := gains_of_onSwitch (a := a) hidle hswitched
      exact (hgains.trans (ih hgains.idle h)).congr (by simp [hne])

/-- What stands after two dashes is a name without a value exactly if it is that name. -/
theorem splitName_eq_bare_iff (hname : '=' ∉ name.toList) :
    (splitName cs).1 = name ∧ (splitName cs).2 = none ↔ cs = name.toList := by
  constructor
  · rintro ⟨hfirst, hsecond⟩
    have hnothing : cs.dropWhile (· != '=') = [] := by
      cases hrest : cs.dropWhile (· != '=') with
      | nil => rfl
      | cons c rest => simp [splitName, Text.cutAt, hrest] at hsecond
    rw [← List.takeWhile_append_dropWhile (p := (· != '=')) (l := cs), hnothing, List.append_nil, ← hfirst]
    exact String.toList_ofList.symm
  · rintro rfl
    rw [splitName_bare hname, String.ofList_toList]
    exact ⟨rfl, rfl⟩

/-! ## A line -/

/-- How a scope comes from the left to what it has been given, each word by the rule for it. -/
inductive Reads (s : Scope) : Progress → List String → Progress → Option (Command × List String) → Prop
  | done (p : Progress) : Reads s p [] p none
  | command {p : Progress} {c : Command} (hc : c ∈ s.commands) (rest : List String) :
      Reads s p (c.name :: rest) p (some (c, rest))
  | dashes (p : Progress) : Reads s p ["--"] p none
  | name {p p' q : Progress} {word : String} {cs : List Char} {rest : List String} {next}
      (hword : word.toList = '-' :: '-' :: cs) (h : s.onName p (splitName cs).1 (splitName cs).2 rest = .ok p')
      (hrest : Reads s p' rest q next) : Reads s p (word :: rest) q next
  | letters {p p' q : Progress} {word : String} {c : Char} {cs : List Char} {rest : List String} {next}
      (hword : word.toList = '-' :: c :: cs) (hc : c ≠ '-') (h : s.onLetters p (c :: cs) = .ok p')
      (hrest : Reads s p' rest q next) : Reads s p (word :: rest) q next
  | value {p q : Progress} {b : Argument} {word : String} {rest : List String} {next} (hp : p.pending = some (b, none))
      (hword : StandsAlone word) (hrest : Reads s { p with pending := some (b, some word) } rest q next) :
      Reads s p (word :: rest) q next

theorem standsAlone_of_ne {word : String} (h : ∀ c cs, word.toList ≠ '-' :: c :: cs) : StandsAlone word := by
  rw [StandsAlone]
  match hword : word.toList with
  | [] => exact .inr (by simp)
  | [c] => by_cases hc : c = '-' <;> simp [hc]
  | c :: d :: cs =>
    refine .inr ?_
    intro hc
    obtain rfl := Option.some.inj hc
    exact h d cs hword

theorem reads_of_scan (h : s.scan p line = .ok (q, next)) : s.Reads p line q next := by
  induction line generalizing p with
  | nil =>
    cases h
    exact .done _
  | cons word rest ih =>
    rw [scan.eq_def] at h
    dsimp only at h
    split at h
    · next c hc =>
      cases h
      split_ifs at hc
      have hname : c.name = word := by simpa using List.find?_some hc
      subst hname
      exact .command (List.mem_of_find?_eq_some hc) rest
    · split_ifs at h
      split at h
      · next hword =>
        have hdashes : word = "--" := String.toList_inj.mp hword
        subst hdashes
        split at h
        · cases h
          exact .dashes _
        · cases h
      · next cs _ hword =>
        obtain ⟨p', hp', h⟩ := bind_eq_ok h
        exact .name hword hp' (ih h)
      · next c cs _ hdash hword =>
        obtain ⟨p', hp', h⟩ := bind_eq_ok h
        refine .letters hword ?_ hp' (ih h)
        rintro rfl
        exact hdash rfl
      · next hletters =>
        split at h
        · next a hp =>
          exact .value hp (standsAlone_of_ne hletters) (ih h)
        · cases h

section

variable {word : String}

theorem ne_dashed_of_standsAlone (h : StandsAlone word) : word ≠ a.dashed := by
  rw [Ne, eq_dashed_iff]
  intro hword
  rw [StandsAlone, hword] at h
  simp at h

/-- A scope without commands is given a flag exactly if the flag is one of the words of the line. -/
theorem Reads.gains (h : s.Reads p line q next) (hs : s.commands = []) (ha : s.HasFlag a) (hidle : ¬p.Awaits a) :
    p.Gains q a (a.dashed ∈ line) := by
  induction h with
  | done p => exact (Gains.refl hidle).congr (by simp)
  | command hc rest =>
    rw [hs] at hc
    cases hc
  | dashes p =>
    have hne : ¬"--" = a.dashed := by
      rw [eq_dashed_iff]
      simpa using ha.named
    exact (Gains.refl hidle).congr (by simpa using Ne.symm hne)
  | @name p p' q word cs rest next hword h hrest ih =>
    have hgains := gains_of_onName ha hidle h
    refine (hgains.trans (ih hgains.idle)).congr ?_
    rw [splitName_eq_bare_iff ha.unmarked, List.mem_cons, eq_comm (a := a.dashed), eq_dashed_iff, hword]
    simp
  | @letters p p' q word c cs rest next hword hc h hrest ih =>
    have hgains := gains_of_onLetters ha hidle h
    have hne : ¬a.dashed = word := by
      rw [eq_comm, eq_dashed_iff, hword]
      simp [hc]
    exact (hgains.trans (ih hgains.idle)).congr (by simp [hne])
  | @value p q b word rest next hp hword hrest ih =>
    have hpends : ¬{ p with pending := some (b, some word) }.Awaits a := by
      rintro ⟨v, hv⟩
      cases hv
      exact hidle ⟨none, hp⟩
    have hgains := ih hpends
    exact ⟨hgains.has_iff.trans (or_congr_right (by simp [(ne_dashed_of_standsAlone hword).symm])), hgains.idle⟩

/-- A name that no argument of a scope has is not among the words before a command. -/
theorem Reads.mem_iff {c : Command} (h : s.Reads p line q (some (c, rest)))
    (hunknown : (s.arguments.find? fun b => b.name == a.name) = none) (hmark : '=' ∉ a.name.toList) :
    a.dashed ∈ line ↔ a.dashed ∈ rest := by
  have hskip {word : String} {line : List String} (hne : word ≠ a.dashed) :
      a.dashed ∈ word :: line ↔ a.dashed ∈ line := by
    simp [hne.symm]
  generalize hnext : some (c, rest) = next at h
  induction h with
  | done p => cases hnext
  | dashes p => cases hnext
  | command hc rest =>
    cases hnext
    refine hskip ?_
    rw [Ne, eq_dashed_iff]
    cases c <;> simp [Command.name]
  | @name p p' q word cs after next hword h hrest ih =>
    refine (hskip ?_).trans (ih hnext)
    intro hdashed
    rw [eq_dashed_iff, hword, List.cons_inj_right, List.cons_inj_right] at hdashed
    obtain ⟨hname, -⟩ := (splitName_eq_bare_iff hmark).mpr hdashed
    rw [onName, hname, hunknown] at h
    cases h
  | @letters p p' q word c cs after next hword hc h hrest ih =>
    refine (hskip ?_).trans (ih hnext)
    rw [Ne, eq_dashed_iff, hword]
    simp [hc]
  | @value p q b word after next hp hword hrest ih => exact (hskip (ne_dashed_of_standsAlone hword)).trans (ih hnext)

end

/-! ## What the environment adds -/

theorem gains_of_fromVariable (ha : a.fallback = none) (hp : p.pending = none) (h : s.fromVariable e p b = .ok p') :
    p.Gains p' a False ∧ p'.pending = none := by
  have hsame : p.Gains p a False := .refl (not_awaits_of_none hp a)
  rw [fromVariable] at h
  split at h
  · cases h
    exact ⟨hsame, hp⟩
  · next held hheld =>
    split at h
    · have hne : b ≠ a := by
        rintro rfl
        rw [ha, Option.bind_none, ite_self] at hheld
        cases hheld
      have hp' := accept_eq_none (proceed_eq_ok h)
      have hgains := gains_of_accept (a := a) hp h
      subst hp'
      exact ⟨hgains.congr (iff_false_intro hne), hp⟩
    · cases h

theorem gains_of_fromVariables (ha : a.fallback = none) {as : List Argument} (hp : p.pending = none)
    (h : as.foldlM (s.fromVariable e) p = .ok q) : p.Gains q a False := by
  induction as generalizing p with
  | nil =>
    cases h
    exact .refl (not_awaits_of_none hp a)
  | cons b as ih =>
    rw [List.foldlM_cons] at h
    obtain ⟨p', hp', h⟩ := bind_eq_ok h
    obtain ⟨hgains, hpending⟩ := gains_of_fromVariable ha hp hp'
    exact (hgains.trans (ih hpending h)).congr (or_self_iff)

/-- The environment gives no flag. -/
theorem gains_of_complete (ha : s.HasFlag a) (hidle : ¬p.Awaits a) (h : s.complete e p = .ok q) :
    p.Gains q a False := by
  obtain ⟨p', hp', h⟩ := bind_eq_ok h
  obtain ⟨q', hq', h⟩ := bind_eq_ok h
  obtain ⟨hgains, hpending⟩ := gains_of_settled hidle hp'
  dsimp only at h
  split_ifs at h
  cases h
  exact (hgains.trans (gains_of_fromVariables ha.fallback hpending hq')).congr or_self_iff

/-- A command has been given a flag in the end exactly if the flag is one of its words. -/
theorem has_iff_of_complete {c : Command} (ha : (ofCommand c).HasFlag a)
    (hscan : (ofCommand c).scan .start line = .ok (p, next)) (h : (ofCommand c).complete e p = .ok q) :
    q.has a = true ↔ a.dashed ∈ line := by
  have hgains := (reads_of_scan hscan).gains rfl ha (not_awaits_of_none rfl a)
  have hall := hgains.trans (gains_of_complete ha hgains.idle h)
  rw [hall.has_iff, or_false, or_iff_right]
  exact Bool.false_ne_true

end Scope

namespace Invocation

theorem hasFlag_strict : (Scope.ofCommand .resolve).HasFlag .strict :=
  ⟨rfl, rfl, by decide, by decide, by decide⟩

theorem hasFlag_showPassword : (Scope.ofCommand .resolve).HasFlag .showPassword :=
  ⟨rfl, rfl, by decide, by decide, by decide⟩

/-- A line that is understood as a resolution is strict, or shows the password, exactly if it says so. -/
theorem flags_of_read {args : List String} {i : Invocation} {apiKey id cluster : String} {strict showPassword : Bool}
    (h : read e args = .ok i) (hi : i.action = .resolve apiKey id cluster strict showPassword) :
    (strict = true ↔ "--strict" ∈ args) ∧ (showPassword = true ↔ "--show-password" ∈ args) := by
  obtain ⟨⟨p, next⟩, hscan, h⟩ := bind_eq_ok h
  cases next with
  | none =>
    obtain ⟨q, -, h⟩ := bind_eq_ok h
    split_ifs at h
  | some taken =>
    obtain ⟨c, rest⟩ := taken
    obtain ⟨⟨q, next⟩, hrest, h⟩ := bind_eq_ok h
    obtain ⟨q', hcomplete, h⟩ := bind_eq_ok h
    obtain ⟨p', -, h⟩ := bind_eq_ok h
    cases h
    cases c with
    | resolve =>
      cases hi
      have htop := Scope.reads_of_scan hscan
      refine ⟨?_, ?_⟩
      · rw [Scope.has_iff_of_complete hasFlag_strict hrest hcomplete]
        exact (htop.mem_iff (a := .strict) (by decide) (by decide)).symm
      · rw [Scope.has_iff_of_complete hasFlag_showPassword hrest hcomplete]
        exact (htop.mem_iff (a := .showPassword) (by decide) (by decide)).symm
    | flow => cases hi
    | clusters => cases hi

end Invocation
end FlowCluster.CommandLine
