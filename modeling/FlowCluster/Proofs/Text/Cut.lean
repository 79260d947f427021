import FlowCluster.Proofs.Text.Utf8
import Mathlib.Tactic.SplitIfs

/-! # Encoded texts that are cut

The bytes of a text, cut after a number of them that is not the last. The cut has a character behind it, the one that the
next byte belongs to, and all that is said of the cut is said by this character and the text before it: that text is the
longest beginning that fits before the cut, and where some bytes of the character stand before the cut too, they are read
leniently as one replacement character. -/

namespace FlowCluster.Text.Utf8

/-- The character behind a cut after `n` bytes of a text, and the text before that character. -/
structure Behind (n : Nat) (t p : String) (c : Char) : Prop where
  begins : p.toList ++ [c] <+: t.toList
  before : (encode p).length ≤ n
  past : n < (encode p).length + (encodeChar c).length

/-- A cut after `n` bytes of a text falls inside one of its characters. -/
def CutsCharacter (n : Nat) (t : String) : Prop := ∃ p c, Behind n t p c ∧ (encode p).length < n

/-- The longest beginning of a text, in whole characters, that has no more than `n` bytes. -/
structure LongestFit (n : Nat) (t p : String) : Prop where
  begins : p.toList <+: t.toList
  fits : (encode p).length ≤ n
  longest : ∀ q : String, q.toList <+: t.toList → (encode q).length ≤ n → q.length ≤ p.length

variable {n : Nat} {t p q : String} {c : Char}

private theorem shown_characters (cs : List Char) : (cs.map some).map (fun p => p.getD '\uFFFD') = cs := by
  rw [List.map_map]
  exact List.map_id cs

/-- A whole text is shown as it is. -/
theorem lossy_encode (t : String) : lossy (encode t) = t := by
  rw [lossy, pieces_encode, shown_characters, String.ofList_toList]

theorem length_encode_le (h : p.toList <+: q.toList) : (encode p).length ≤ (encode q).length := by
  obtain ⟨r, hr⟩ := h
  rw [encode, encode, ← hr, List.flatMap_append, List.length_append]
  exact Nat.le_add_right _ _

theorem length_encode_snoc (p : String) (c : Char) :
    (encode (p ++ String.singleton c)).length = (encode p).length + (encodeChar c).length := by
  simp [encode]

theorem exists_behind_chars (cs : List Char) (h : n < (cs.flatMap encodeChar).length) :
    ∃ ps c, ps ++ [c] <+: cs ∧ (ps.flatMap encodeChar).length ≤ n ∧
      n < (ps.flatMap encodeChar).length + (encodeChar c).length := by
  induction cs generalizing n with
  | nil => exact absurd h (Nat.not_lt_zero n)
  | cons c cs ih =>
    rw [List.flatMap_cons, List.length_append] at h
    -- The byte after the cut belongs to the first character, or it is found among the others, with so many bytes less to go.
    by_cases hc : n < (encodeChar c).length
    · exact ⟨[], c, ⟨cs, rfl⟩, Nat.zero_le n, by simpa using hc⟩
    · obtain ⟨ps, d, hbegins, hbefore, hpast⟩ := ih (n := n - (encodeChar c).length) (by omega)
      refine ⟨c :: ps, d, ?_, ?_, ?_⟩
      · exact List.cons_prefix_cons.mpr ⟨rfl, hbegins⟩
      · rw [List.flatMap_cons, List.length_append]
        omega
      · rw [List.flatMap_cons, List.length_append]
        omega

/-- There is a character behind every cut but the one after the last byte. -/
theorem exists_behind (h : n < (encode t).length) : ∃ p c, Behind n t p c := by
  obtain ⟨ps, c, hbegins, hbefore, hpast⟩ := exists_behind_chars t.toList h
  refine ⟨String.ofList ps, c, ⟨?_, ?_, ?_⟩⟩
  · rwa [String.toList_ofList]
  · rwa [encode, String.toList_ofList]
  · rwa [encode, String.toList_ofList]

namespace Behind

/-- What fits before the cut ends before the character behind it. -/
theorem prefix_of_fits (h : Behind n t p c) (hq : q.toList <+: t.toList) (hfits : (encode q).length ≤ n) :
    q.toList <+: p.toList := by
  have htoo : ¬p.toList ++ [c] <+: q.toList := by
    intro hpq
    have hlong : (encode (p ++ String.singleton c)).length ≤ (encode q).length :=
      length_encode_le (by simpa using hpq)
    rw [length_encode_snoc] at hlong
    exact absurd (Nat.lt_of_lt_of_le h.past hlong) (Nat.not_lt.mpr hfits)
  rcases List.prefix_or_prefix_of_prefix hq h.begins with hqp | hpq
  · rcases List.prefix_concat_iff.mp hqp with hsame | hqp
    · exact absurd (hsame ▸ List.prefix_rfl) htoo
    · exact hqp
  · exact absurd hpq htoo

theorem begins_before (h : Behind n t p c) : p.toList <+: t.toList := (List.prefix_append _ _).trans h.begins

/-- The cut comes before the end of the text. -/
theorem lt_length (h : Behind n t p c) : n < (encode t).length := by
  have hbegins : (encode (p ++ String.singleton c)).length ≤ (encode t).length :=
    length_encode_le (by simpa using h.begins)
  rw [length_encode_snoc] at hbegins
  exact Nat.lt_of_lt_of_le h.past hbegins

theorem longestFit (h : Behind n t p c) : LongestFit n t p where
  begins := h.begins_before
  fits := h.before
  longest q hq hfits := by
    rw [← String.length_toList, ← String.length_toList]
    exact (h.prefix_of_fits hq hfits).length_le

theorem cutsCharacter_iff (h : Behind n t p c) : CutsCharacter n t ↔ (encode p).length < n := by
  refine ⟨?_, fun hlt => ⟨p, c, h, hlt⟩⟩
  rintro ⟨q, d, hq, hlt⟩
  exact Nat.lt_of_le_of_lt (length_encode_le (hq.prefix_of_fits h.begins_before h.before)) hlt

/-- What is read of a cut text: whole characters, and what stands of the next one before the cut as one piece. -/
theorem pieces_take (h : Behind n t p c) :
    pieces ((encode t).take n) = p.toList.map some ++ if (encode p).length < n then [none] else [] := by
  obtain ⟨r, hr⟩ := h.begins
  have hpast := h.past
  have hsplit : encode t = encode p ++ (encodeChar c ++ r.flatMap encodeChar) := by
    rw [encode, ← hr]
    simp [encode]
  rw [hsplit, List.take_append, List.take_of_length_le h.before, List.take_append_of_le_length (by omega),
    pieces_encode_append]
  congr 1
  split_ifs with hlt
  · have hlength : ((encodeChar c).take (n - (encode p).length)).length = n - (encode p).length :=
      List.length_take_of_le (by omega)
    refine pieces_cut_encodeChar (List.take_prefix _ _) ?_ ?_
    · intro hall
      rw [hall] at hlength
      omega
    · intro hnone
      rw [hnone, List.length_nil] at hlength
      omega
  · rw [Nat.sub_eq_zero_of_le (Nat.not_lt.mp hlt), List.take_zero, pieces_nil]

theorem lossy_take (h : Behind n t p c) :
    lossy ((encode t).take n) = if (encode p).length < n then p ++ "\uFFFD" else p := by
  rw [lossy, h.pieces_take, List.map_append, shown_characters]
  split_ifs with hlt
  · rw [String.ofList_append, String.ofList_toList]
    rfl
  · rw [List.map_nil, List.append_nil, String.ofList_toList]

end Behind
end FlowCluster.Text.Utf8
