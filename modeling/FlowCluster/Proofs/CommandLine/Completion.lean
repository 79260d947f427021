import FlowCluster.CommandLine.Invocation

/-! # What the environment adds to a command line

A variable gives a value to an argument that the line does not give. Where all variables are texts, and those that should
be counts are counts, each argument comes to the value of its variable or to the implied one; the first that should be a
count and is none ends the matter. -/

namespace FlowCluster

/-- A variable is not set, or it is a text. -/
def Environment.IsText (e : Environment) (name : String) : Prop := e.bytes? name = none ∨ ∃ v, e.text? name = some v

namespace CommandLine

/-- What the environment has for an argument. -/
def Argument.drawn? (a : Argument) (e : Environment) : Option String := a.fallback.bind fun f => e.text? f.source

variable {s : Scope} {e : Environment} {p q : Progress} {a : Argument} {as : List Argument} {v : String}

namespace Progress

/-- What has been given, and after it what the environment has for some arguments. -/
def draw (p : Progress) (e : Environment) (as : List Argument) : Progress :=
  { p with given := p.given ++ as.filterMap fun a => (a.drawn? e).map (a, ·) }

theorem has_eq_false_iff : p.has a = false ↔ ∀ g ∈ p.given, g.1 ≠ a := by
  simp [has]

theorem draw_nil (p : Progress) (e : Environment) : p.draw e [] = p := by
  rw [draw, List.filterMap_nil, List.append_nil]

theorem draw_cons_of_none (p : Progress) (as : List Argument) (h : a.drawn? e = none) :
    p.draw e (a :: as) = p.draw e as := by
  rw [draw, draw, List.filterMap_cons_none (by rw [h]; rfl)]

theorem draw_cons_of_some (p : Progress) (as : List Argument) (h : a.drawn? e = some v) :
    p.draw e (a :: as) = { p with given := p.given ++ [(a, v)] }.draw e as := by
  rw [draw, draw, List.filterMap_cons_some (by rw [h]; rfl), List.append_assoc]
  rfl

/-- What the environment has for an argument is found among what it has for many. -/
theorem find?_drawn (e : Environment) (ha : a ∈ as) :
    (as.filterMap fun b => (b.drawn? e).map (b, ·)).find? (fun g => g.1 == a) = (a.drawn? e).map (a, ·) := by
  cases hd : a.drawn? e with
  | none =>
    rw [Option.map_none, List.find?_eq_none]
    intro g hg
    obtain ⟨b, -, hb⟩ := List.mem_filterMap.mp hg
    obtain ⟨v, hv, rfl⟩ := Option.map_eq_some_iff.mp hb
    rw [beq_iff_eq]
    rintro rfl
    cases hd.symm.trans hv
  | some v =>
    induction as with
    | nil => cases ha
    | cons b as ih =>
      by_cases hb : b = a
      · subst hb
        rw [List.filterMap_cons_some (by rw [hd]; rfl), List.find?_cons_of_pos (by simp)]
        rfl
      · have hrest := ih ((List.mem_cons.mp ha).resolve_left (Ne.symm hb))
        cases hother : b.drawn? e with
        | some w =>
          rw [List.filterMap_cons_some (by rw [hother]; rfl), List.find?_cons_of_neg (by simpa using hb), hrest]
        | none => rw [List.filterMap_cons_none (by rw [hother]; rfl), hrest]

/-- Whatever else the environment has, an argument that it is asked for and that was not given has the value of its
variable, or the implied one. -/
theorem value_draw (hnew : p.has a = false) (ha : a ∈ as) :
    (p.draw e as).value a = (a.drawn? e).getD (a.implied.getD "") := by
  have hbefore : p.given.find? (fun g => g.1 == a) = none := by
    rw [List.find?_eq_none]
    intro g hg
    simpa using has_eq_false_iff.mp hnew g hg
  rw [value, draw, List.find?_append, hbefore, Option.none_or, find?_drawn e ha]
  cases a.drawn? e with
  | none => rfl
  | some v => rfl

theorem has_draw_of_not_mem (hnew : p.has a = false) (ha : a ∉ as) : (p.draw e as).has a = false := by
  rw [has_eq_false_iff] at hnew ⊢
  intro g hg
  rcases List.mem_append.mp hg with hg | hg
  · exact hnew g hg
  · obtain ⟨b, hb, hg⟩ := List.mem_filterMap.mp hg
    obtain ⟨v, -, rfl⟩ := Option.map_eq_some_iff.mp hg
    rintro rfl
    exact ha hb

theorem accept_of_new (hnew : p.has a = false) (hcheck : a.check v = .ok ()) :
    p.accept a v = ({ p with given := p.given ++ [(a, v)] }, none) := by
  simp only [accept, hnew, Bool.false_eq_true, ↓reduceIte, hcheck]

theorem accept_of_misfit {r : Text.Count.Refusal} (hnew : p.has a = false) (hcheck : a.check v = .error r) :
    p.accept a v = ({ p with given := p.given ++ [(a, v)] }, some (.invalidValue a v r)) := by
  simp only [accept, hnew, Bool.false_eq_true, ↓reduceIte, hcheck]

end Progress

namespace Scope

theorem fromVariable_of_has (h : p.has a = true) : s.fromVariable e p a = .ok p := by
  rw [fromVariable, if_pos h]

theorem fromVariable_of_none (h : a.fallback = none) : s.fromVariable e p a = .ok p := by
  rw [fromVariable, h, Option.bind_none, ite_self]

theorem fromVariable_of_undrawn (htext : ∀ f ∈ a.fallback, e.IsText f.source) (h : a.drawn? e = none) :
    s.fromVariable e p a = .ok p := by
  cases hf : a.fallback with
  | none => exact fromVariable_of_none hf
  | some f =>
    rw [Argument.drawn?, hf, Option.bind_some] at h
    rcases htext f hf with hunset | ⟨v, hv⟩
    · rw [fromVariable, hf, Option.bind_some, hunset, ite_self]
    · cases h.symm.trans hv

/-- The text of a variable is taken as if it had been given. -/
theorem fromVariable_of_drawn (hnew : p.has a = false) (h : a.drawn? e = some v) :
    s.fromVariable e p a = s.proceed (p.accept a v) := by
  obtain ⟨f, hf, hv⟩ := Option.bind_eq_some_iff.mp h
  obtain ⟨b, hb, hdecode⟩ := Option.bind_eq_some_iff.mp hv
  rw [fromVariable, if_neg (by simp [hnew]), hf, Option.bind_some, hb]
  dsimp only
  rw [hdecode]

/-- Every argument is taken from its variable, if all of these are texts and fit. -/
theorem foldlM_fromVariable (hnodup : as.Nodup) (hnew : ∀ a ∈ as, p.has a = false)
    (htext : ∀ a ∈ as, ∀ f ∈ a.fallback, e.IsText f.source)
    (hcheck : ∀ a ∈ as, ∀ v, a.drawn? e = some v → a.check v = .ok ()) :
    as.foldlM (s.fromVariable e) p = .ok (p.draw e as) := by
  induction as generalizing p with
  | nil => rw [Progress.draw_nil]; rfl
  | cons a as ih =>
    rw [List.forall_mem_cons] at hnew htext hcheck
    obtain ⟨ha, hnodup⟩ := List.nodup_cons.mp hnodup
    cases hd : a.drawn? e with
    | none =>
      rw [List.foldlM_cons, fromVariable_of_undrawn htext.1 hd, Progress.draw_cons_of_none p as hd]
      exact ih hnodup hnew.2 htext.2 hcheck.2
    | some v =>
      have hrest : ∀ b ∈ as, { p with given := p.given ++ [(a, v)] }.has b = false := by
        intro b hb
        rw [Progress.has_eq_false_iff]
        intro g hg
        rcases List.mem_append.mp hg with hg | hg
        · exact Progress.has_eq_false_iff.mp (hnew.2 b hb) g hg
        · rw [List.mem_singleton.mp hg]
          rintro rfl
          exact ha hb
      rw [List.foldlM_cons, fromVariable_of_drawn hnew.1 hd, Progress.accept_of_new hnew.1 (hcheck.1 v hd),
        Progress.draw_cons_of_some p as hd]
      exact ih hnodup hrest htext.2 hcheck.2

/-- The first variable that does not fit ends the matter. -/
theorem foldlM_fromVariable_of_misfit {r : Text.Count.Refusal} {later : List Argument} (hnodup : (a :: as).Nodup)
    (hnew : ∀ b ∈ a :: as, p.has b = false) (htext : ∀ b ∈ as, ∀ f ∈ b.fallback, e.IsText f.source)
    (hcheck : ∀ b ∈ as, ∀ v, b.drawn? e = some v → b.check v = .ok ()) (hd : a.drawn? e = some v)
    (hv : a.check v = .error r) :
    (as ++ a :: later).foldlM (s.fromVariable e) p = .error (s.complain (.invalidValue a v r)) := by
  rw [List.forall_mem_cons] at hnew
  obtain ⟨ha, hnodup⟩ := List.nodup_cons.mp hnodup
  have hnew' : (p.draw e as).has a = false := Progress.has_draw_of_not_mem hnew.1 ha
  rw [List.foldlM_append, foldlM_fromVariable hnodup hnew.2 htext hcheck]
  change (a :: later).foldlM (s.fromVariable e) (p.draw e as) = _
  rw [List.foldlM_cons, fromVariable_of_drawn hnew' hd, Progress.accept_of_misfit hnew' hv]
  rfl

/-- Where all that a command needs is given, nothing is taken from the environment. -/
theorem complete_of_given (hq : s.settled p = .ok q) (hgiven : ∀ a ∈ s.arguments, q.has a = true ∨ a.fallback = none)
    (hrequired : ∀ a ∈ s.required, q.has a = true) : s.complete e p = .ok q := by
  have hkept (as : List Argument) (h : ∀ a ∈ as, q.has a = true ∨ a.fallback = none) :
      as.foldlM (s.fromVariable e) q = .ok q := by
    induction as with
    | nil => rfl
    | cons a as ih =>
      rw [List.forall_mem_cons] at h
      rw [List.foldlM_cons, h.1.elim fromVariable_of_has fromVariable_of_none]
      exact ih h.2
  have hmissing : (s.required.filter fun a => !q.has a) = [] := by
    rw [List.filter_eq_nil_iff]
    intro a ha
    simp [hrequired a ha]
  simp only [complete, hq, hkept s.arguments hgiven, hmissing, Except.bind, bind, List.isEmpty_nil, ↓reduceIte]
  rfl

end Scope

end CommandLine
end FlowCluster
