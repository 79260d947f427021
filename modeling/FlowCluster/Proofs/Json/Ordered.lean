import FlowCluster.Proofs.Json.Value

/-! # The order of the members

Members that are put in one after the other stand in the order of their keys, each key once and with the value that was
put in last. Members that stand so already are left as they are. Every value that is read has its members in order, in
every object and at every depth. -/

namespace FlowCluster.Json

/-- Members in the order of their keys, each key once. -/
def KeysOrdered (ms : List (String × Value)) : Prop := ms.Pairwise fun m n => m.1 < n.1

section Insert

variable {key k : String} {v : Value} {m : String × Value} {ms : List (String × Value)}

private theorem lt_of_not_lt (h : ¬key < k) (hne : key ≠ k) : k < key := by
  by_contra hk
  exact hne (String.le_antisymm (String.not_lt.mp hk) (String.not_lt.mp h))

theorem mem_of_mem_insert (h : m ∈ Value.insert key v ms) : m = (key, v) ∨ m ∈ ms := by
  induction ms with
  | nil => exact .inl (List.mem_singleton.mp h)
  | cons n ms ih =>
    obtain ⟨k, w⟩ := n
    rw [Value.insert] at h
    split_ifs at h with hlt heq
    · exact List.mem_cons.mp h
    · rcases List.mem_cons.mp h with h | h
      · exact .inl h
      · exact .inr (List.mem_cons_of_mem _ h)
    · rcases List.mem_cons.mp h with h | h
      · exact .inr (h ▸ List.mem_cons_self ..)
      · exact (ih h).imp_right (List.mem_cons_of_mem _)

theorem KeysOrdered.insert (h : KeysOrdered ms) (key : String) (v : Value) : KeysOrdered (Value.insert key v ms) := by
  induction ms with
  | nil => exact List.pairwise_singleton _ _
  | cons n ms ih =>
    obtain ⟨k, w⟩ := n
    obtain ⟨hfirst, hrest⟩ := List.pairwise_cons.mp h
    rw [Value.insert]
    split_ifs with hlt heq
    · apply List.pairwise_cons.mpr
      refine ⟨?_, h⟩
      intro m hm
      rcases List.mem_cons.mp hm with rfl | hm
      · exact hlt
      · exact String.lt_trans hlt (hfirst m hm)
    · subst heq
      exact List.pairwise_cons.mpr ⟨hfirst, hrest⟩
    · apply List.pairwise_cons.mpr
      refine ⟨?_, ih hrest⟩
      intro m hm
      rcases mem_of_mem_insert hm with rfl | hm
      · exact lt_of_not_lt hlt heq
      · exact hfirst m hm

/-- A member whose key is past all others goes to the end. -/
theorem insert_eq_append (h : ∀ m ∈ ms, m.1 < key) (v : Value) : Value.insert key v ms = ms ++ [(key, v)] := by
  induction ms with
  | nil => rfl
  | cons n ms ih =>
    obtain ⟨k, w⟩ := n
    obtain ⟨hk, hrest⟩ := List.forall_mem_cons.mp h
    have hlt : ¬key < k := fun hlt => String.lt_irrefl k (String.lt_trans hk hlt)
    have hne : key ≠ k := fun he => String.lt_irrefl k (he ▸ hk)
    rw [Value.insert, if_neg hlt, if_neg hne, ih hrest, List.cons_append]

private theorem lookup_cons (name : String) (m : String × Value) (ms : List (String × Value)) :
    (m :: ms).lookup name = if name = m.1 then some m.2 else ms.lookup name := by
  rw [List.lookup_cons]
  by_cases h : name = m.1
  · rw [if_pos h, beq_iff_eq.mpr h]
  · rw [if_neg h, beq_eq_false_iff_ne.mpr h]

/-- What is put in under a key is what stands under it, and no other key is touched. -/
theorem lookup_insert (name key : String) (v : Value) (ms : List (String × Value)) :
    (Value.insert key v ms).lookup name = if name = key then some v else ms.lookup name := by
  induction ms with
  | nil => exact lookup_cons name (key, v) []
  | cons n ms ih =>
    obtain ⟨k, w⟩ := n
    by_cases hlt : key < k
    · rw [Value.insert, if_pos hlt, lookup_cons]
    · by_cases heq : key = k
      · subst heq
        rw [Value.insert, if_neg hlt, if_pos rfl, lookup_cons, lookup_cons]
        split_ifs
        · rfl
        · rfl
      · rw [Value.insert, if_neg hlt, if_neg heq, lookup_cons, lookup_cons, ih]
        split_ifs with hk hkey
        · exact absurd (hkey.symm.trans hk) heq
        · rfl
        · rfl
        · rfl

end Insert

section Inserted

variable {m : String × Value} {ms seen : List (String × Value)}

theorem KeysOrdered.inserted (h : KeysOrdered seen) (ms : List (String × Value)) : KeysOrdered (inserted seen ms) := by
  induction ms generalizing seen with
  | nil => exact h
  | cons m ms ih => exact ih (h.insert m.1 m.2)

theorem mem_of_mem_inserted (h : m ∈ inserted seen ms) : m ∈ seen ∨ m ∈ ms := by
  induction ms generalizing seen with
  | nil => exact .inl h
  | cons n ms ih =>
    rcases ih h with h | h
    · rcases mem_of_mem_insert h with rfl | h
      · exact .inr (List.mem_cons_self ..)
      · exact .inl h
    · exact .inr (List.mem_cons_of_mem _ h)

/-- Members in order are put in as they stand. -/
theorem inserted_eq_append (h : KeysOrdered (seen ++ ms)) : inserted seen ms = seen ++ ms := by
  induction ms generalizing seen with
  | nil => exact (List.append_nil seen).symm
  | cons m ms ih =>
    have hlast : ∀ n ∈ seen, n.1 < m.1 := by
      intro n hn
      exact (List.pairwise_append.mp h).2.2 n hn m (List.mem_cons_self ..)
    have hstep : inserted seen (m :: ms) = inserted (seen ++ [m]) ms :=
      congrArg (inserted · ms) (insert_eq_append hlast m.2)
    rw [hstep, ih]
    · rw [List.append_assoc, List.singleton_append]
    · rwa [List.append_assoc, List.singleton_append]

theorem inserted_eq_self (h : KeysOrdered ms) : inserted [] ms = ms := inserted_eq_append h

/-- Of several members with one key the last counts. -/
theorem lookup_inserted (name : String) (ms seen : List (String × Value)) :
    (inserted seen ms).lookup name = (ms.reverse.lookup name).or (seen.lookup name) := by
  induction ms generalizing seen with
  | nil => rfl
  | cons m ms ih =>
    have hstep : inserted seen (m :: ms) = inserted (Value.insert m.1 m.2 seen) ms := rfl
    have hlast : [m].lookup name = if name = m.1 then some m.2 else none := lookup_cons name m []
    rw [hstep, ih, lookup_insert, List.reverse_cons, List.lookup_append, hlast, Option.or_assoc]
    split_ifs
    · rfl
    · rfl

end Inserted

/-- A value whose objects have their members in order, with so many brackets open at once. -/
inductive Value.Ordered : Nat → Value → Prop
  | scalar {d : Nat} (x : Scalar) : Ordered d (.scalar x)
  | list {d : Nat} {xs : List Value} : (∀ x ∈ xs, Ordered d x) → Ordered (d + 1) (.list xs)
  | object {d : Nat} {ms : List (String × Value)} :
      KeysOrdered ms → (∀ m ∈ ms, Ordered d m.2) → Ordered (d + 1) (.object ms)

/-- What is read has its members in order. -/
theorem ValueText.ordered {d : Nat} {e : Bytes} {v : Value} (h : ValueText d e v) : v.Ordered d := by
  induction d generalizing e v with
  | zero =>
    obtain ⟨x, -, rfl⟩ := h
    exact .scalar x
  | succ d ih =>
    rcases h with ⟨x, -, rfl⟩ | ⟨t, xs, ht, -, rfl⟩ | ⟨t, ms, ht, -, rfl⟩
    · exact .scalar x
    · apply Value.Ordered.list
      intro x hx
      obtain ⟨e, he⟩ := ht.forall_mem x hx
      exact ih he
    · have hempty : KeysOrdered [] := List.Pairwise.nil
      apply Value.Ordered.object (hempty.inserted ms)
      intro m hm
      rcases mem_of_mem_inserted hm with hm | hm
      · cases hm
      · obtain ⟨e, he⟩ := ht.forall_mem m hm
        exact ih he

/-- An object is read with its members in order, and under each key the last of them. -/
theorem exactly_object {d : Nat} {t : Bytes} {ms : List (String × Value)}
    (h : Members (fun _ => ValueText d) true t ms) :
    ∃ os, Exactly (value (d + 1)) ('\x7b'.toUInt8 :: t) (.object os) ∧ KeysOrdered os ∧
      ∀ key, os.lookup key = ms.reverse.lookup key := by
  have htext : ValueText (d + 1) ('\x7b'.toUInt8 :: t) (.object (inserted [] ms)) := .inr (.inr ⟨t, ms, h, rfl, rfl⟩)
  have hempty : KeysOrdered [] := List.Pairwise.nil
  refine ⟨inserted [] ms, ((value_reads (d + 1)).exactly_iff apart_nil).mpr htext, hempty.inserted ms, ?_⟩
  intro key
  rw [lookup_inserted, List.lookup_nil, Option.or_none]

end FlowCluster.Json
