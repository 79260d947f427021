import FlowCluster.CommandLine.Scan
import FlowCluster.Proofs.CommandLine.Completion
import Mathlib.Data.List.TakeWhile

/-! # Lines that give arguments

The words of a line that give arguments of a command, each once: an option with its value attached or in the next word, and
a flag by its name alone. Two dashes may end the line. Such a line is read to what it gives. -/

namespace FlowCluster.CommandLine

def Argument.isOption (a : Argument) : Prop :=
  ∃ placeholder format required, a.purpose = .option placeholder format required

def Argument.isFlag (a : Argument) : Prop := ∃ short, a.purpose = .flag short

theorem Argument.toList_dashed (a : Argument) : a.dashed.toList = '-' :: '-' :: a.name.toList := by
  rw [dashed, String.toList_append]
  rfl

/-- A word that is not taken for an argument. -/
def StandsAlone (v : String) : Prop := v.toList = ['-'] ∨ v.toList.head? ≠ some '-'

/-- The words of a line that gives arguments with their values. A flag has an empty value. -/
inductive Gives : List (Argument × String) → List String → Prop
  | nothing : Gives [] []
  | dashes : Gives [] ["--"]
  | attached {a : Argument} (v : String) {gs line} (ha : a.isOption) (h : Gives gs line) :
      Gives ((a, v) :: gs) ((a.dashed ++ "=" ++ v) :: line)
  | following {a : Argument} {v : String} {gs line} (ha : a.isOption) (hv : StandsAlone v) (h : Gives gs line) :
      Gives ((a, v) :: gs) (a.dashed :: v :: line)
  | flag {a : Argument} {gs line} (ha : a.isFlag) (h : Gives gs line) : Gives ((a, "") :: gs) (a.dashed :: line)

/-- Arguments of a command that can be read and give it all that it needs. -/
def Complete (c : Command) (line : List String) : Prop :=
  ∃ p next q, (Scope.ofCommand c).scan .start line = .ok (p, next) ∧ (Scope.ofCommand c).settled p = .ok q ∧
    ∀ a ∈ (Scope.ofCommand c).required, q.has a = true

namespace Scope

/-- A scope without commands whose arguments are told by their names, and whose values may be any texts. -/
structure Tidy (s : Scope) : Prop where
  commands : s.commands = []
  named : ∀ a ∈ s.arguments, a.name ≠ ""
  unmarked : ∀ a ∈ s.arguments, '=' ∉ a.name.toList
  found : ∀ a ∈ s.arguments, (s.arguments.find? fun b => b.name == a.name) = some a
  free : ∀ a ∈ s.arguments, ∀ v, a.check v = .ok ()

theorem tidy_ofCommand (c : Command) : (ofCommand c).Tidy where
  commands := rfl
  named := by cases c <;> decide
  unmarked := by cases c <;> decide
  found := by cases c <;> decide
  free := by
    intro a ha v
    have hsome : a ∈ [.apiKey, .flow, .cluster, .strict, .showPassword, .bucket, .help] := by
      revert a
      cases c <;> decide
    simp only [List.mem_cons, List.not_mem_nil, or_false] at hsome
    rcases hsome with rfl | rfl | rfl | rfl | rfl | rfl | rfl <;> rfl

variable {s : Scope} {p q : Progress} {a : Argument} {v word : String} {line : List String} {cs : List Char}
  {given gs : List (Argument × String)}

theorem names_of_tidy (hs : s.Tidy) : s.names = [] := by
  rw [names, listed, hs.commands]
  rfl

/-- In a scope without commands, a word with two dashes is an argument. -/
theorem scan_dashed (hs : s.Tidy) (hword : word.toList = '-' :: '-' :: cs) (hcs : cs ≠ []) :
    s.scan p (word :: line) =
      s.onName p (splitName cs).1 (splitName cs).2 line >>= fun q => s.scan q line := by
  obtain ⟨c, cs, rfl⟩ := List.exists_cons_of_ne_nil hcs
  rw [scan.eq_def]
  simp only [hs.commands, names_of_tidy hs, hword]
  simp

/-- A word that is not taken for an argument is the value that is awaited. -/
theorem scan_value (hs : s.Tidy) (hv : StandsAlone v) :
    s.scan ⟨given, some (a, none)⟩ (v :: line) = s.scan ⟨given, some (a, some v)⟩ line := by
  have hawaiting : (Progress.mk given (some (a, none))).isAwaiting = true := rfl
  rw [scan.eq_def]
  simp only [hs.commands, names_of_tidy hs, hawaiting]
  rcases hv with hv | hv
  · simp [hv]
  · cases hword : v.toList with
    | nil => simp
    | cons c cs =>
      have hne : c ≠ '-' := fun h => hv (by rw [hword, h]; rfl)
      simp [hne]

/-- Where values are free, an argument that is new is accepted with any. -/
theorem accept_of_tidy (hs : s.Tidy) (ha : a ∈ s.arguments) (hnew : a ∉ given.map Prod.fst) :
    (Progress.mk given none).accept a v = (⟨given ++ [(a, v)], none⟩, none) := by
  apply Progress.accept_of_new _ (hs.free a ha v)
  rw [Progress.has_eq_false_iff]
  rintro g hg rfl
  exact hnew (List.mem_map_of_mem hg)

private theorem unequal (h : '=' ∉ cs) : ∀ c ∈ cs, (c != '=') = true := by
  rintro c hc
  rw [bne_iff_ne]
  rintro rfl
  exact h hc

theorem splitName_bare (h : '=' ∉ cs) : splitName cs = (String.ofList cs, none) := by
  rw [splitName, Text.cutAt, List.takeWhile_eq_self_iff.mpr (unequal h), List.dropWhile_eq_nil_iff.mpr (unequal h)]
  rfl

theorem splitName_attached (h : '=' ∉ cs) (vs : List Char) :
    splitName (cs ++ '=' :: vs) = (String.ofList cs, some (String.ofList vs)) := by
  rw [splitName, Text.cutAt, List.takeWhile_append_of_pos (unequal h), List.dropWhile_append_of_pos (unequal h)]
  simp

section

variable (hs : s.Tidy) (ha : a ∈ s.arguments)

include hs ha

theorem scan_attached (v : String) (line : List String) :
    s.scan p ((a.dashed ++ "=" ++ v) :: line) = s.onName p a.name (some v) line >>= fun q => s.scan q line := by
  have hword : (a.dashed ++ "=" ++ v).toList = '-' :: '-' :: (a.name.toList ++ '=' :: v.toList) := by
    simp [Argument.dashed]
  rw [scan_dashed hs hword (by simp), splitName_attached (hs.unmarked a ha), String.ofList_toList, String.ofList_toList]

theorem scan_bare (line : List String) :
    s.scan p (a.dashed :: line) = s.onName p a.name none line >>= fun q => s.scan q line := by
  have hname : a.name.toList ≠ [] := fun h => hs.named a ha (String.toList_eq_nil_iff.mp h)
  rw [scan_dashed hs a.toList_dashed hname, splitName_bare (hs.unmarked a ha), String.ofList_toList]

variable (hp : s.settled p = .ok ⟨given, none⟩)

include hp

theorem onName_awaiting (hoption : a.isOption) (line : List String) :
    s.onName p a.name none line = .ok ⟨given, some (a, none)⟩ := by
  obtain ⟨placeholder, format, required, hpurpose⟩ := hoption
  simp only [onName, hs.found a ha, hpurpose, hp]
  rfl

variable (hnew : a ∉ given.map Prod.fst)

include hnew

theorem onName_attached (hoption : a.isOption) (v : String) (line : List String) :
    s.onName p a.name (some v) line = .ok ⟨given ++ [(a, v)], none⟩ := by
  obtain ⟨placeholder, format, required, hpurpose⟩ := hoption
  simp only [onName, hs.found a ha, hpurpose, hp, bind, Except.bind, accept_of_tidy hs ha hnew]
  rfl

theorem onName_flag (hflag : a.isFlag) (line : List String) :
    s.onName p a.name none line = .ok ⟨given ++ [(a, "")], none⟩ := by
  obtain ⟨short, hpurpose⟩ := hflag
  simp only [onName, onSwitch, hs.found a ha, hpurpose, hp, bind, Except.bind, accept_of_tidy hs ha hnew]
  rfl

end

theorem settled_given (s : Scope) (given : List (Argument × String)) : s.settled ⟨given, none⟩ = .ok ⟨given, none⟩ :=
  rfl

theorem settled_pending (s : Scope) (given : List (Argument × String)) (a : Argument) (v : String) :
    s.settled ⟨given, some (a, some v)⟩ = s.proceed ((Progress.mk given none).accept a v) := rfl

/-- Two dashes at the end of a line give nothing. -/
theorem scan_dashes (hs : s.Tidy) : s.scan p ["--"] = .ok (p, none) := by
  rw [scan.eq_def]
  simp [hs.commands, names_of_tidy hs]

/-- What a line gives is what it is read to, after all that was given before. -/
theorem scan_gives (hs : s.Tidy) (hg : Gives gs line) (hp : s.settled p = .ok ⟨given, none⟩)
    (hmem : ∀ g ∈ gs, g.1 ∈ s.arguments) (hnodup : ((given ++ gs).map Prod.fst).Nodup) :
    ∃ q, s.scan p line = .ok (q, none) ∧ s.settled q = .ok ⟨given ++ gs, none⟩ := by
  have hnew {given gs : List (Argument × String)} {a : Argument} {v : String}
      (h : ((given ++ (a, v) :: gs).map Prod.fst).Nodup) : a ∉ given.map Prod.fst := by
    rw [List.map_append, List.map_cons] at h
    exact fun hmem => (List.nodup_append.mp h).2.2 a hmem a (List.mem_cons_self ..) rfl
  -- After the name of an option its value is pending, not given; so the progress is known by what it is settled to.
  induction hg generalizing p given with
  | nothing => exact ⟨p, rfl, by rw [List.append_nil]; exact hp⟩
  | dashes => exact ⟨p, scan_dashes hs, by rw [List.append_nil]; exact hp⟩
  | @attached a v gs line ha h ih =>
    have hfresh := hnew hnodup
    rw [List.forall_mem_cons] at hmem
    rw [List.append_cons given] at hnodup ⊢
    rw [scan_attached hs hmem.1, onName_attached hs hmem.1 hp hfresh ha]
    exact ih (settled_given s _) hmem.2 hnodup
  | @following a v gs line ha hv h ih =>
    have hfresh := hnew hnodup
    rw [List.forall_mem_cons] at hmem
    rw [List.append_cons given] at hnodup ⊢
    have hpending : s.settled ⟨given, some (a, some v)⟩ = .ok ⟨given ++ [(a, v)], none⟩ := by
      rw [settled_pending, accept_of_tidy hs hmem.1 hfresh]
      rfl
    obtain ⟨q, hq, hsettled⟩ := ih hpending hmem.2 hnodup
    rw [scan_bare hs hmem.1, onName_awaiting hs hmem.1 hp ha]
    exact ⟨q, (scan_value hs hv).trans hq, hsettled⟩
  | @flag a gs line ha h ih =>
    have hfresh := hnew hnodup
    rw [List.forall_mem_cons] at hmem
    rw [List.append_cons given] at hnodup ⊢
    rw [scan_bare hs hmem.1, onName_flag hs hmem.1 hp hfresh ha]
    exact ih (settled_given s _) hmem.2 hnodup

end Scope

/-- A line that gives arguments of a command, each once and none of the needed ones left out, is complete. -/
theorem complete_of_gives {c : Command} {gs : List (Argument × String)} {line : List String} (hg : Gives gs line)
    (hown : ∀ g ∈ gs, g.1 ∈ c.arguments) (hnodup : (gs.map Prod.fst).Nodup)
    (hrequired : ∀ a ∈ (Scope.ofCommand c).required, a ∈ gs.map Prod.fst) : Complete c line := by
  obtain ⟨p, hscan, hsettled⟩ :=
    Scope.scan_gives (p := .start) (Scope.tidy_ofCommand c) hg rfl hown hnodup
  refine ⟨p, none, ⟨gs, none⟩, hscan, hsettled, fun a ha => ?_⟩
  obtain ⟨g, hg, hga⟩ := List.mem_map.mp (hrequired a ha)
  exact List.any_eq_true.mpr ⟨g, hg, by rw [hga]; exact beq_self_eq_true a⟩

end FlowCluster.CommandLine
