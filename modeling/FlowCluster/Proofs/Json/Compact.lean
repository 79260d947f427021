import FlowCluster.Proofs.Json.Ordered
import FlowCluster.Proofs.Json.WholeNumber

/-! # Values that are written and read again

A value whose numbers are whole and whose members are in order is read back from its text as it was. No bracket more is
open in the text than in the value. -/

namespace FlowCluster.Json

/-- Whether a scalar is anything but a real number. -/
def Scalar.isIntegral : Scalar → Bool
  | .number (.real _ _) => false
  | _ => true

namespace Value

mutual

/-- Whether every number in a value is whole. -/
def isIntegral : Value → Bool
  | .scalar x => x.isIntegral
  | .list xs => areIntegral xs
  | .object ms => membersIntegral ms

def areIntegral : List Value → Bool
  | [] => true
  | x :: xs => isIntegral x && areIntegral xs

def membersIntegral : List (String × Value) → Bool
  | [] => true
  | (_, v) :: ms => isIntegral v && membersIntegral ms

end

theorem areIntegral_iff {xs : List Value} : areIntegral xs = true ↔ ∀ x ∈ xs, x.isIntegral = true := by
  induction xs with
  | nil => simp [areIntegral]
  | cons x xs ih => rw [areIntegral, Bool.and_eq_true, ih, List.forall_mem_cons]

theorem membersIntegral_iff {ms : List (String × Value)} :
    membersIntegral ms = true ↔ ∀ m ∈ ms, m.2.isIntegral = true := by
  induction ms with
  | nil => simp [membersIntegral]
  | cons m ms ih => rw [membersIntegral, Bool.and_eq_true, ih, List.forall_mem_cons]

end Value

theorem scalarText_chars {x : Scalar} (h : x.isIntegral = true) : ScalarText (bytesOf x.chars) x := by
  cases x with
  | null => exact .null
  | boolean b =>
    cases b with
    | true => exact .true
    | false => exact .false
  | text s => exact .text (quoted_stringChars s)
  | number n =>
    cases n with
    | whole i hi => exact scalarText_whole i hi
    | real negative x => cases h

/-- A list without white space is the text of its items. -/
theorem items_compact {R : Bytes → Value → Prop} {xs : List Value} (h : ∀ x ∈ xs, R (bytesOf x.compactChars) x) :
    ∃ t, bytesOf (Value.compactChars (.list xs)) = '['.toUInt8 :: t ∧ Items R true t xs := by
  have hpadded : List.Forall₂ (Padded R) (xs.map fun x => bytesOf x.compactChars) xs := by
    rw [List.forall₂_map_left_iff, List.forall₂_same]
    intro x hx
    exact ⟨[], _, [], blank_nil, h x hx, blank_nil, by rw [List.append_nil, List.nil_append]⟩
  exact ⟨_, Value.compact_list_eq xs, items_iff.mpr ⟨_, rfl, .inr ⟨_, hpadded, rfl⟩⟩⟩

/-- What is written of a value in order is a text of that value. -/
theorem Value.Ordered.valueText {d : Nat} {v : Value} (ho : v.Ordered d) (hi : v.isIntegral = true) :
    ValueText d (bytesOf v.compactChars) v := by
  induction ho with
  | scalar x =>
    rw [Value.isIntegral] at hi
    rw [Value.compactChars]
    exact (scalarText_chars hi).valueText
  | @list d xs _ ih =>
    rw [Value.isIntegral, Value.areIntegral_iff] at hi
    obtain ⟨t, ht, hitems⟩ := items_compact fun x hx => ih x hx (hi x hx)
    exact .inr (.inl ⟨t, xs, hitems, ht, rfl⟩)
  | @object d ms hkeys _ ih =>
    rw [Value.isIntegral, Value.membersIntegral_iff] at hi
    have hmembers : List.Forall₂
        (fun (m n : String × Value) => m.1 = n.1 ∧ ValueText d (bytesOf m.2.compactChars) n.2) ms ms := by
      rw [List.forall₂_same]
      intro m hm
      exact ⟨rfl, ih m hm (hi m hm)⟩
    obtain ⟨t, ht, htext⟩ := Value.members_compact (R := fun _ => ValueText d) hmembers
    exact .inr (.inr ⟨t, ms, htext, ht, by rw [inserted_eq_self hkeys]⟩)

end FlowCluster.Json
