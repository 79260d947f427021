import FlowCluster.Proofs.Json.Written

/-! # Documents over several lines

What begins a line is white space, and white space may stand around every item and every member, so an object or a list
that is laid out over lines is as much the text of its parts as one without white space, however deep it stands. -/

namespace FlowCluster.Json.Value

variable {α : Type}

theorem bytesOf_newline (depth : Nat) :
    bytesOf (newline depth) = '\n'.toUInt8 :: List.replicate (2 * depth) ' '.toUInt8 := by
  have hline : Text.Utf8.encodeChar '\n' = ['\n'.toUInt8] := by decide
  have hspace : Text.Utf8.encodeChar ' ' = [' '.toUInt8] := by decide
  have hspaces (n : Nat) : bytesOf (List.replicate n ' ') = List.replicate n ' '.toUInt8 := by
    induction n with
    | zero => rfl
    | succ n ih => rw [List.replicate_succ, bytesOf_cons, hspace, ih, List.replicate_succ, List.singleton_append]
  rw [newline, bytesOf_cons, hline, hspaces, List.singleton_append]

theorem blank_newline (depth : Nat) : Blank (bytesOf (newline depth)) := by
  rw [bytesOf_newline]
  intro b hb
  rcases List.mem_cons.mp hb with rfl | hb
  · decide
  · rw [List.eq_of_mem_replicate hb]
    decide

section Members

variable {R : String → Bytes → α → Prop} {depth : Nat}

private theorem bytesOf_prettyMember (depth : Nat) (k : String) (v : Value) (ms : List (String × Value)) :
    bytesOf (newline (depth + 1) ++ stringChars k ++ ':' :: ' ' :: (prettyChars (depth + 1) v ++
        prettyMembers depth ms)) =
      bytesOf (newline (depth + 1)) ++ '"'.toUInt8 :: (bytesOf (k.toList.flatMap escapeChar) ++
        '"'.toUInt8 :: ([] ++ ':'.toUInt8 :: ([' '.toUInt8] ++ (bytesOf (prettyChars (depth + 1) v) ++
          bytesOf (prettyMembers depth ms))))) := by
  rw [List.append_assoc, bytesOf_append, bytesOf_stringChars, bytesOf_cons, bytesOf_cons, bytesOf_append]
  rfl

/-- The members after the first, each on a line of its own. -/
private theorem members_prettyMembers {ms : List (String × Value)} {xs : List (String × α)}
    (h : List.Forall₂ (fun m x => m.1 = x.1 ∧ R m.1 (bytesOf (m.2.prettyChars (depth + 1))) x.2) ms xs) :
    Members R false (bytesOf (prettyMembers depth ms)) xs := by
  induction h with
  | nil =>
    rw [prettyMembers, bytesOf_append]
    exact .close (blank_newline depth)
  | @cons m x ms xs hm _ ih =>
    obtain ⟨k, v⟩ := m
    obtain ⟨k', x⟩ := x
    obtain ⟨rfl, hv⟩ := hm
    have hgap : Gap false (','.toUInt8 :: bytesOf (newline (depth + 1))) := .next blank_nil (blank_newline _)
    have hmember := Members.member hgap (spells_text k) blank_nil (w := [' '.toUInt8]) (by decide) hv ih
    rw [prettyMembers, bytesOf_cons, bytesOf_prettyMember]
    exact hmember

/-- An object over several lines is the text of its members in brackets. -/
theorem members_pretty {ms : List (String × Value)} {xs : List (String × α)}
    (h : List.Forall₂ (fun m x => m.1 = x.1 ∧ R m.1 (bytesOf (m.2.prettyChars (depth + 1))) x.2) ms xs) :
    ∃ t, bytesOf (prettyChars depth (.object ms)) = '\x7b'.toUInt8 :: t ∧ Members R true t xs := by
  cases h with
  | nil => exact ⟨_, rfl, .close blank_nil⟩
  | @cons m x ms xs hm hms =>
    obtain ⟨k, v⟩ := m
    obtain ⟨k', x⟩ := x
    obtain ⟨rfl, hv⟩ := hm
    have hrest := members_prettyMembers hms
    have hmember := Members.member (.first (blank_newline (depth + 1))) (spells_text k) blank_nil
      (w := [' '.toUInt8]) (by decide) hv hrest
    refine ⟨_, ?_, hmember⟩
    rw [prettyChars, bytesOf_cons, bytesOf_prettyMember]
    rfl

end Members

section Items

variable {R : Bytes → α → Prop} {depth : Nat}

/-- The items after the first, each on a line of its own. -/
private theorem items_prettyItems {vs : List Value} {xs : List α}
    (h : List.Forall₂ (fun v => R (bytesOf (prettyChars (depth + 1) v))) vs xs) :
    Items R false (bytesOf (prettyItems depth vs)) xs := by
  induction h with
  | nil =>
    rw [prettyItems, bytesOf_append]
    exact .close (blank_newline depth)
  | cons hv _ ih =>
    have hgap : Gap false (','.toUInt8 :: bytesOf (newline (depth + 1))) := .next blank_nil (blank_newline _)
    have hitem := Items.item hgap hv ih
    rw [prettyItems, bytesOf_cons, bytesOf_append, bytesOf_append, List.append_assoc]
    exact hitem

/-- A list over several lines is the text of its items in brackets. -/
theorem items_pretty {vs : List Value} {xs : List α}
    (h : List.Forall₂ (fun v => R (bytesOf (prettyChars (depth + 1) v))) vs xs) :
    ∃ t, bytesOf (prettyChars depth (.list vs)) = '['.toUInt8 :: t ∧ Items R true t xs := by
  cases h with
  | nil => exact ⟨_, rfl, .close blank_nil⟩
  | cons hv hvs =>
    have hitem := Items.item (.first (blank_newline (depth + 1))) hv (items_prettyItems hvs)
    refine ⟨_, ?_, hitem⟩
    rw [prettyChars, bytesOf_cons, bytesOf_append, bytesOf_append, List.append_assoc]
    rfl

end Items

end FlowCluster.Json.Value
