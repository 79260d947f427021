import FlowCluster.Json.Written
import FlowCluster.Proofs.Json.Elements

/-! # What is written can be read

Written strings spell what they were written from, whatever characters they hold: quotes and backslashes have escapes,
as have the controls, by name or by number, and every other character stands for itself in its own bytes. Objects and
lists written without white space are the texts of their members and elements. -/

namespace FlowCluster.Json

/-- Characters in their bytes. -/
def bytesOf (cs : List Char) : Bytes := cs.flatMap Text.Utf8.encodeChar

theorem bytesOf_append (cs ds : List Char) : bytesOf (cs ++ ds) = bytesOf cs ++ bytesOf ds := List.flatMap_append

theorem bytesOf_cons (c : Char) (cs : List Char) : bytesOf (c :: cs) = Text.Utf8.encodeChar c ++ bytesOf cs := rfl

theorem encode_ofList (cs : List Char) : Text.Utf8.encode (String.ofList cs) = bytesOf cs := by
  rw [Text.Utf8.encode, String.toList_ofList]
  rfl

theorem Spells.append {e d e' d' : Bytes} (h : Spells e d) (h' : Spells e' d') : Spells (e ++ e') (d ++ d') := by
  induction h with
  | done => exact h'
  | plain hb _ ih => exact .plain hb ih
  | escape hx _ ih =>
    rw [List.cons_append, List.append_assoc, List.append_assoc]
    exact .escape hx ih

/-- The bytes of a character beyond the first 128 are beyond them too. -/
private theorem high_of_mem_encodeChar {c : Char} (hc : 0x80 ≤ c.toNat) {b : UInt8} (hb : b ∈ Text.Utf8.encodeChar c) :
    0x80 ≤ b.toNat := by
  have hmax : c.toNat < 0x110000 := c.valid.elim (fun h => Nat.lt_trans h (by decide)) fun h => h.2
  simp only [Text.Utf8.encodeChar, Nat.not_lt.mpr hc, ↓reduceIte] at hb
  split at hb
  · simp only [List.mem_cons, List.not_mem_nil, or_false] at hb
    rcases hb with rfl | rfl <;> simp <;> omega
  · split at hb
    · simp only [List.mem_cons, List.not_mem_nil, or_false] at hb
      rcases hb with rfl | rfl | rfl <;> simp <;> omega
    · simp only [List.mem_cons, List.not_mem_nil, or_false] at hb
      rcases hb with rfl | rfl | rfl | rfl <;> simp <;> omega

/-- A character that needs no escape is written as itself. -/
private theorem plain_of_mem_encodeChar {c : Char} (hq : c ≠ '"') (hs : c ≠ '\\') (hc : 0x20 ≤ c.toNat) {b : UInt8}
    (hb : b ∈ Text.Utf8.encodeChar c) : Plain b := by
  by_cases hhigh : 0x80 ≤ c.toNat
  · have hb := high_of_mem_encodeChar hhigh hb
    refine ⟨?_, ?_, ?_⟩
    · rintro rfl
      exact absurd hb (by decide)
    · rintro rfl
      exact absurd hb (by decide)
    · rw [UInt8.lt_iff_toNat_lt]
      exact fun hlt => absurd (Nat.le_trans hb (Nat.le_of_lt hlt)) (by decide)
  · have hlow : c.toNat < 0x80 := Nat.not_le.mp hhigh
    simp only [Text.Utf8.encodeChar, hlow, ↓reduceIte, List.mem_singleton] at hb
    have hn : b.toNat = c.toNat := by
      rw [hb, UInt8.toNat_ofNat']
      omega
    refine ⟨?_, ?_, ?_⟩
    · rintro rfl
      exact hq (Char.toNat_inj.mp hn.symm)
    · rintro rfl
      exact hs (Char.toNat_inj.mp hn.symm)
    · rw [UInt8.lt_iff_toNat_lt, hn]
      exact Nat.not_lt.mpr hc

/-- A control character by its number. -/
private theorem escape_control {n : Nat} (h : n < 0x20) :
    Escape (bytesOf ['u', '0', '0', Nat.digitChar (n / 16), Nat.digitChar (n % 16)])
      (Text.Utf8.encodeChar (Char.ofNat n)) := by
  have hquad : ∀ n < 0x20,
      bytesOf ['u', '0', '0', Nat.digitChar (n / 16), Nat.digitChar (n % 16)] = ['u'.toUInt8, '0'.toUInt8, '0'.toUInt8,
        (Nat.digitChar (n / 16)).toUInt8, (Nat.digitChar (n % 16)).toUInt8] ∧
      hexQuad? '0'.toUInt8 '0'.toUInt8 (Nat.digitChar (n / 16)).toUInt8 (Nat.digitChar (n % 16)).toUInt8 = some n ∧
      isLowSurrogate n = false ∧ isHighSurrogate n = false := by decide
  obtain ⟨hb, hn, hl, hh⟩ := hquad n h
  rw [hb]
  exact .numbered ⟨_, _, _, _, rfl, hn⟩ hl hh

/-- What a character is written as spells it. -/
theorem spells_escapeChar (c : Char) : Spells (bytesOf (escapeChar c)) (Text.Utf8.encodeChar c) := by
  unfold escapeChar
  split_ifs with hq hs hb hf hn hr ht hc
  · subst hq
    exact .escape (.short rfl) .done
  · subst hs
    exact .escape (.short rfl) .done
  · obtain rfl : c = Char.ofNat 0x08 := by rw [← hb, Char.ofNat_toNat]
    exact .escape (.short rfl) .done
  · obtain rfl : c = Char.ofNat 0x0C := by rw [← hf, Char.ofNat_toNat]
    exact .escape (.short rfl) .done
  · subst hn
    exact .escape (.short rfl) .done
  · subst hr
    exact .escape (.short rfl) .done
  · subst ht
    exact .escape (.short rfl) .done
  · have hnumbered := escape_control hc
    rw [Char.ofNat_toNat] at hnumbered
    have hslash : Text.Utf8.encodeChar '\\' = ['\\'.toUInt8] := by decide
    have hspells := Spells.escape hnumbered .done
    rw [List.append_nil, List.append_nil] at hspells
    rw [bytesOf_cons, hslash]
    exact hspells
  · have hplain : ∀ b ∈ Text.Utf8.encodeChar c, Plain b := fun b =>
      plain_of_mem_encodeChar hq hs (Nat.not_lt.mp hc)
    have hself : bytesOf [c] = Text.Utf8.encodeChar c := List.append_nil _
    rw [hself]
    exact .of_plain hplain

theorem spells_escaped (cs : List Char) : Spells (bytesOf (cs.flatMap escapeChar)) (bytesOf cs) := by
  induction cs with
  | nil => exact .done
  | cons c cs ih =>
    rw [List.flatMap_cons, bytesOf_append, bytesOf_cons]
    exact (spells_escapeChar c).append ih

/-- A written string and the bytes after it. -/
theorem bytesOf_stringChars (s : String) (cs : List Char) :
    bytesOf (stringChars s ++ cs) =
      '"'.toUInt8 :: (bytesOf (s.toList.flatMap escapeChar) ++ '"'.toUInt8 :: bytesOf cs) := by
  have hquote : Text.Utf8.encodeChar '"' = ['"'.toUInt8] := by decide
  rw [stringChars, List.cons_append, bytesOf_cons, List.append_assoc, bytesOf_append, List.singleton_append,
    bytesOf_cons, hquote]
  rfl

/-- What is between the quotes of a written string spells its text. -/
theorem spells_text (s : String) : Spells (bytesOf (s.toList.flatMap escapeChar)) (Text.Utf8.encode s) :=
  spells_escaped s.toList

theorem quoted_stringChars (s : String) : Quoted (bytesOf (stringChars s)) s := by
  have h := bytesOf_stringChars s []
  rw [List.append_nil] at h
  exact ⟨_, spells_text s, h⟩

namespace Value

variable {α : Type} {R : String → Bytes → α → Prop}

/-- The members after the first, as they are written, are the text of those members. -/
private theorem members_compactMembers {ms : List (String × Value)} {xs : List (String × α)}
    (h : List.Forall₂ (fun m x => m.1 = x.1 ∧ R m.1 (bytesOf m.2.compactChars) x.2) ms xs) :
    Members R false (bytesOf (compactMembers ms)) xs := by
  induction h with
  | nil => exact .close blank_nil
  | @cons m x ms xs hm _ ih =>
    obtain ⟨k, v⟩ := m
    obtain ⟨k', x⟩ := x
    obtain ⟨rfl, hv⟩ := hm
    have hbytes : bytesOf (compactMembers ((k, v) :: ms)) =
        ','.toUInt8 :: '"'.toUInt8 :: (bytesOf (k.toList.flatMap escapeChar) ++
          '"'.toUInt8 :: ':'.toUInt8 :: (bytesOf v.compactChars ++ bytesOf (compactMembers ms))) := by
      rw [compactMembers, bytesOf_cons, bytesOf_stringChars, bytesOf_cons, bytesOf_append]
      rfl
    rw [hbytes]
    exact .member (.next blank_nil blank_nil) (spells_text k) blank_nil blank_nil hv ih

/-- An object without white space is the text of its members in brackets. -/
theorem members_compact {ms : List (String × Value)} {xs : List (String × α)}
    (h : List.Forall₂ (fun m x => m.1 = x.1 ∧ R m.1 (bytesOf m.2.compactChars) x.2) ms xs) :
    ∃ t, bytesOf (compactChars (.object ms)) = '\x7b'.toUInt8 :: t ∧ Members R true t xs := by
  cases h with
  | nil => exact ⟨_, rfl, .close blank_nil⟩
  | @cons m x ms xs hm hms =>
    obtain ⟨k, v⟩ := m
    obtain ⟨k', x⟩ := x
    obtain ⟨rfl, hv⟩ := hm
    have hbytes : bytesOf (compactChars (.object ((k, v) :: ms))) =
        '\x7b'.toUInt8 :: '"'.toUInt8 :: (bytesOf (k.toList.flatMap escapeChar) ++
          '"'.toUInt8 :: ':'.toUInt8 :: (bytesOf v.compactChars ++ bytesOf (compactMembers ms))) := by
      rw [compactChars, bytesOf_cons, bytesOf_stringChars, bytesOf_cons, bytesOf_append]
      rfl
    have hrest := members_compactMembers hms
    exact ⟨_, hbytes, .member (.first blank_nil) (spells_text k) blank_nil blank_nil hv hrest⟩

private theorem compactItems_eq (vs : List Value) :
    bytesOf (compactItems vs) = continued (vs.map fun v => bytesOf v.compactChars) ++ [']'.toUInt8] := by
  induction vs with
  | nil => rfl
  | cons v vs ih =>
    rw [compactItems, bytesOf_cons, bytesOf_append, ih, List.map_cons, continued_cons, List.cons_append,
      List.append_assoc]
    rfl

/-- A list without white space is its elements with commas between them, in brackets. -/
theorem compact_list_eq (vs : List Value) : bytesOf (compactChars (.list vs)) =
    '['.toUInt8 :: (joined (vs.map fun v => bytesOf v.compactChars) ++ [']'.toUInt8]) := by
  cases vs with
  | nil => rfl
  | cons v vs =>
    rw [compactChars, bytesOf_cons, bytesOf_append, compactItems_eq, List.map_cons, joined_cons, List.append_assoc]
    rfl

end Value
end FlowCluster.Json
