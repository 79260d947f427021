import FlowCluster.Resolution
import Mathlib.Data.List.Induction
import Mathlib.Logic.Relation

/-! # What is selected

Both selections go by the last cluster of the identifier. The lenient one is found by a scan that keeps the last
match so far, so the induction that fits it adds a cluster at the end of the list. All that counts of a list are
its clusters of the identifier, in their order: the others may come, go and move as they like. -/

namespace FlowCluster.Selection

/-- The last cluster of an identifier. -/
def last? (clusters : List Cluster) (identifier : String) : Option Cluster :=
  (clusters.filter fun c => c.identifier = identifier).getLast?

variable {clusters : List Cluster} {bucket identifier : String} {c : Cluster}

theorem last?_concat (clusters : List Cluster) (c : Cluster) (identifier : String) :
    last? (clusters ++ [c]) identifier = if c.identifier = identifier then some c else last? clusters identifier := by
  rw [last?, List.filter_append]
  by_cases h : c.identifier = identifier
  · simp [h]
  · simp [h, last?]

theorem last?_append (xs ys : List Cluster) (identifier : String) :
    last? (xs ++ ys) identifier = (last? ys identifier).or (last? xs identifier) := by
  rw [last?, List.filter_append, List.getLast?_append]
  rfl

theorem last?_eq_none_iff : last? clusters identifier = none ↔ ∀ c ∈ clusters, c.identifier ≠ identifier := by
  simp [last?]

/-- A cluster of the identifier is the last one if none behind it is one. -/
theorem last?_of_split (before after : List Cluster) (hc : c.identifier = identifier)
    (hafter : ∀ d ∈ after, d.identifier ≠ identifier) : last? (before ++ [c] ++ after) identifier = some c := by
  rw [last?_append, last?_eq_none_iff.mpr hafter, Option.none_or, last?_concat, if_pos hc]

theorem identifier_of_last? (h : last? clusters identifier = some c) : c.identifier = identifier := by
  have hm : c ∈ clusters.filter fun c => c.identifier = identifier := List.mem_of_getLast? h
  simpa using (List.mem_filter.mp hm).2

theorem select_eq (clusters : List Cluster) (identifier : String) :
    select clusters identifier = (last? clusters identifier).getD .blank := by
  induction clusters using List.reverseRecOn with
  | nil => rfl
  | append_singleton cs c ih =>
    have hstep : select (cs ++ [c]) identifier = if c.identifier = identifier then c else select cs identifier := by
      rw [select, List.foldl_append]
      rfl
    rw [hstep, last?_concat]
    split
    · rfl
    · exact ih

theorem select_of_some (h : last? clusters identifier = some c) : select clusters identifier = c := by
  rw [select_eq, h, Option.getD_some]

theorem select_of_none (h : last? clusters identifier = none) : select clusters identifier = .blank := by
  rw [select_eq, h, Option.getD_none]

theorem selectStrict_of_some (h : last? clusters identifier = some c) :
    selectStrict clusters bucket identifier = .ok c := by
  rw [last?] at h
  rw [selectStrict, h]

theorem selectStrict_of_none (h : last? clusters identifier = none) :
    selectStrict clusters bucket identifier = .error (.clusterNotFound bucket identifier) := by
  rw [last?] at h
  rw [selectStrict, h]

/-! ## Lists that are not told apart -/

/-- Neither selection tells two lists apart. -/
structure SelectedAlike (bucket identifier : String) (xs ys : List Cluster) : Prop where
  lenient : select xs identifier = select ys identifier
  strict : selectStrict xs bucket identifier = selectStrict ys bucket identifier

/-- One change to the clusters of other identifiers: one comes in, goes away, or changes places with its neighbour. -/
inductive Edit (identifier : String) : List Cluster → List Cluster → Prop
  | insert (xs ys : List Cluster) {d : Cluster} (hd : d.identifier ≠ identifier) :
      Edit identifier (xs ++ ys) (xs ++ d :: ys)
  | remove (xs ys : List Cluster) {d : Cluster} (hd : d.identifier ≠ identifier) :
      Edit identifier (xs ++ d :: ys) (xs ++ ys)
  | exchange (xs ys : List Cluster) {c d : Cluster} (h : c.identifier ≠ identifier ∨ d.identifier ≠ identifier) :
      Edit identifier (xs ++ c :: d :: ys) (xs ++ d :: c :: ys)

variable {xs ys : List Cluster}

theorem SelectedAlike.of_last? (h : last? xs identifier = last? ys identifier) :
    SelectedAlike bucket identifier xs ys where
  lenient := by rw [select_eq, select_eq, h]
  strict := by
    cases hy : last? ys identifier with
    | some c => rw [selectStrict_of_some (h.trans hy), selectStrict_of_some hy]
    | none => rw [selectStrict_of_none (h.trans hy), selectStrict_of_none hy]

/-- The clusters of an identifier, in their order. -/
def matching (clusters : List Cluster) (identifier : String) : List Cluster :=
  clusters.filter fun c => c.identifier = identifier

namespace Edit

theorem matching_eq (h : Edit identifier xs ys) : matching xs identifier = matching ys identifier := by
  cases h with
  | insert xs ys hd => simp [matching, hd]
  | remove xs ys hd => simp [matching, hd]
  | exchange xs ys h => rcases h with h | h <;> simp [matching, List.filter_cons, h]

theorem cons (c : Cluster) (h : Edit identifier xs ys) : Edit identifier (c :: xs) (c :: ys) := by
  cases h with
  | insert xs ys hd => exact .insert (c :: xs) ys hd
  | remove xs ys hd => exact .remove (c :: xs) ys hd
  | exchange xs ys h => exact .exchange (c :: xs) ys h

/-- Every change can be taken back. -/
instance : Std.Symm (Edit identifier) where
  symm xs ys h := by
    cases h with
    | insert xs ys hd => exact .remove xs ys hd
    | remove xs ys hd => exact .insert xs ys hd
    | exchange xs ys h => exact .exchange xs ys h.symm

end Edit

/-- The clusters of other identifiers can be taken away one by one. -/
theorem edits_matching (clusters : List Cluster) (identifier : String) :
    Relation.ReflTransGen (Edit identifier) clusters (matching clusters identifier) := by
  induction clusters with
  | nil => exact .refl
  | cons c cs ih =>
    by_cases hc : c.identifier = identifier
    · have hkept : matching (c :: cs) identifier = c :: matching cs identifier :=
        List.filter_cons_of_pos (decide_eq_true hc)
      rw [hkept]
      exact ih.lift (c :: ·) fun _ _ h => h.cons c
    · have hgone : matching (c :: cs) identifier = matching cs identifier :=
        List.filter_cons_of_neg (by simpa using hc)
      rw [hgone]
      exact ih.head (.remove [] cs hc)

/-- Changes lead from one list to another exactly if the two have the same clusters of the identifier in the same order. -/
theorem edits_iff :
    Relation.ReflTransGen (Edit identifier) xs ys ↔ matching xs identifier = matching ys identifier := by
  constructor
  · intro h
    induction h with
    | refl => rfl
    | tail _ hstep ih => exact ih.trans hstep.matching_eq
  · intro h
    have hback : Relation.ReflTransGen (Edit identifier) (matching ys identifier) ys :=
      Std.Symm.symm _ _ (edits_matching ys identifier)
    exact (h ▸ edits_matching xs identifier).trans hback

theorem SelectedAlike.of_edits (h : Relation.ReflTransGen (Edit identifier) xs ys) :
    SelectedAlike bucket identifier xs ys :=
  .of_last? (congrArg List.getLast? (edits_iff.mp h))

/-- The last cluster of the identifier decides both selections, as it stands; where there is none, the one is blank and the
other names the bucket and the identifier. So of two lists one after the other the second decides if it has a match and the
first if not, and what happens to clusters of other identifiers is not seen. -/
theorem last_match_decides (bucket identifier : String) :
    (∀ before c after, c.identifier = identifier → (∀ d ∈ after, d.identifier ≠ identifier) →
      select (before ++ [c] ++ after) identifier = c ∧
      selectStrict (before ++ [c] ++ after) bucket identifier = .ok c) ∧
    (∀ clusters : List Cluster, (∀ d ∈ clusters, d.identifier ≠ identifier) →
      select clusters identifier = .blank ∧
      selectStrict clusters bucket identifier = .error (.clusterNotFound bucket identifier)) ∧
    (∀ xs ys : List Cluster, (∃ d ∈ ys, d.identifier = identifier) → SelectedAlike bucket identifier (xs ++ ys) ys) ∧
    (∀ xs ys : List Cluster, (∀ d ∈ ys, d.identifier ≠ identifier) → SelectedAlike bucket identifier (xs ++ ys) xs) ∧
    (∀ xs ys, Relation.ReflTransGen (Edit identifier) xs ys → SelectedAlike bucket identifier xs ys) := by
  refine ⟨?hit, ?miss, ?second, ?first, ?edits⟩
  case hit =>
    intro before c after hc hafter
    have hlast := last?_of_split before after hc hafter
    exact ⟨select_of_some hlast, selectStrict_of_some hlast⟩
  case miss =>
    intro clusters hnone
    have hlast := last?_eq_none_iff.mpr hnone
    exact ⟨select_of_none hlast, selectStrict_of_none hlast⟩
  case second =>
    rintro xs ys ⟨d, hd, hidentifier⟩
    apply SelectedAlike.of_last?
    cases hlast : last? ys identifier with
    | some c => rw [last?_append, hlast, Option.some_or]
    | none => exact absurd hidentifier (last?_eq_none_iff.mp hlast d hd)
  case first =>
    intro xs ys hnone
    apply SelectedAlike.of_last?
    rw [last?_append, last?_eq_none_iff.mpr hnone, Option.none_or]
  case edits =>
    intro xs ys h
    exact .of_edits h

theorem last_match_decides_repeated :
    (∀ d ∈ [⟨"a", "other", "", "", "", ""⟩, Cluster.blank], d.identifier ≠ "b") ∧
    select [⟨"b", "first", "", "", "", ""⟩, ⟨"b", "second", "", "", "", ""⟩, ⟨"a", "other", "", "", "", ""⟩, .blank] "b" =
      ⟨"b", "second", "", "", "", ""⟩ ∧
    selectStrict [⟨"b", "first", "", "", "", ""⟩, ⟨"b", "second", "", "", "", ""⟩, ⟨"a", "other", "", "", "", ""⟩, .blank]
      "bucket" "b" = .ok ⟨"b", "second", "", "", "", ""⟩ := by
  have hafter : ∀ d ∈ [⟨"a", "other", "", "", "", ""⟩, Cluster.blank], d.identifier ≠ "b" := by decide
  have h := (last_match_decides "bucket" "b").1 [⟨"b", "first", "", "", "", ""⟩] ⟨"b", "second", "", "", "", ""⟩ _ rfl hafter
  exact ⟨hafter, h⟩

end FlowCluster.Selection
