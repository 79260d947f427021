import FlowCluster.Event
import FlowCluster.Proofs.Text.Cut

/-! # How much of a body is shown

What a log shows of a body is never longer than the bytes that are read for it, however these are to be understood. A text
is shown in whole characters as far as these bytes go, and a character that the limit cuts leaves one mark. -/

namespace FlowCluster

namespace Text.Utf8

/-- Every piece takes a byte at least. -/
theorem length_pieces_le : ∀ s : Bytes, (pieces s).length ≤ s.length
  | [] => by simp
  | b :: r => by
    have hrest := length_pieces_le (piece b r).2
    have hpiece := length_piece_le b r
    rw [pieces_cons, List.length_cons, List.length_cons]
    omega
termination_by s => s.length
decreasing_by
  have hpiece := length_piece_le b r
  simp only [List.length_cons]
  omega

theorem length_lossy_le (s : Bytes) : (lossy s).length ≤ s.length := by
  rw [lossy, String.length_ofList, List.length_map]
  exact length_pieces_le s

end Text.Utf8

open Text.Utf8

theorem excerpt_of_le {body : Bytes} (h : body.length ≤ excerptLimit) : excerpt body = lossy body := by
  have hrest : (body.drop excerptLimit).isEmpty := by rwa [List.isEmpty_iff, List.drop_eq_nil_iff]
  rw [excerpt, if_pos hrest, List.take_of_length_le h]

theorem excerpt_of_lt {body : Bytes} (h : excerptLimit < body.length) :
    excerpt body = lossy (body.take excerptLimit) ++ "..." := by
  have hrest : ¬(body.drop excerptLimit).isEmpty := by
    rw [List.isEmpty_iff, List.drop_eq_nil_iff]
    exact Nat.not_le.mpr h
  rw [excerpt, if_neg hrest]

theorem excerpt_eq (body : Bytes) : excerpt body =
    if excerptLimit < body.length then lossy (body.take excerptLimit) ++ "..." else lossy (body.take excerptLimit) := by
  split_ifs with h
  · exact excerpt_of_lt h
  · rw [excerpt_of_le (Nat.not_lt.mp h), List.take_of_length_le (Nat.not_lt.mp h)]

theorem length_lossy_take_le (body : Bytes) : (lossy (body.take excerptLimit)).length ≤ excerptLimit :=
  Nat.le_trans (length_lossy_le _) (List.length_take_le _ _)

/-- An excerpt is short, up to the dots that stand for the rest of a longer body. -/
theorem excerpt_short (body : Bytes) :
    ∃ shown : String, shown.length ≤ excerptLimit ∧
      excerpt body = if excerptLimit < body.length then shown ++ "..." else shown :=
  ⟨lossy (body.take excerptLimit), length_lossy_take_le body, excerpt_eq body⟩

/-- A long text is shown up to the cut, with one mark for a character that the cut falls inside. -/
theorem excerpt_of_behind {t p : String} {c : Char} (hlong : excerptLimit < (encode t).length)
    (h : Behind excerptLimit t p c) :
    (CutsCharacter excerptLimit t → excerpt (encode t) = p ++ "\uFFFD" ++ "...") ∧
    (¬CutsCharacter excerptLimit t → excerpt (encode t) = p ++ "...") := by
  rw [h.cutsCharacter_iff, excerpt_of_lt hlong, h.lossy_take]
  constructor
  · intro hlt
    rw [if_pos hlt]
  · intro hge
    rw [if_neg hge]

/-- What is shown of a body. A text is shown as it stands if it is short enough; if not, its longest beginning in whole
characters that fits is shown, then one U+FFFD if the cut falls inside a character, then the dots. Of any body, be it text or
not, those bytes are read that come first, and there are as many as are asked for; they make no more characters than bytes,
and bodies that have them in common and go on are shown alike. -/
theorem excerpt_shows :
    (∀ t : String, (encode t).length ≤ 2048 → excerpt (encode t) = t) ∧
    (∀ t : String, 2048 < (encode t).length → ∃ p, LongestFit 2048 t p ∧
      (CutsCharacter 2048 t → excerpt (encode t) = p ++ "\uFFFD" ++ "...") ∧
      (¬CutsCharacter 2048 t → excerpt (encode t) = p ++ "...")) ∧
    (∀ body : Bytes, ∃ slice rest, body = slice ++ rest ∧ slice.length = min body.length 2048 ∧
      (lossy slice).length ≤ 2048 ∧
      excerpt body = if 2048 < body.length then lossy slice ++ "..." else lossy slice) ∧
    (∀ body body' : Bytes, 2048 < body.length → 2048 < body'.length → body.take 2048 = body'.take 2048 →
      excerpt body = excerpt body') := by
  refine ⟨?whole, ?cut, ?any, ?same⟩
  case whole =>
    intro t hshort
    rw [excerpt_of_le hshort, lossy_encode]
  case cut =>
    intro t hlong
    obtain ⟨p, c, h⟩ := exists_behind hlong
    exact ⟨p, h.longestFit, excerpt_of_behind hlong h⟩
  case any =>
    intro body
    have hlength : (body.take 2048).length = min body.length 2048 := by rw [List.length_take, Nat.min_comm]
    exact ⟨body.take 2048, body.drop 2048, (List.take_append_drop _ _).symm, hlength, length_lossy_take_le body,
      excerpt_eq body⟩
  case same =>
    intro body body' hlong hlong' hsame
    rw [excerpt_of_lt hlong, excerpt_of_lt hlong']
    exact congrArg (fun slice => lossy slice ++ "...") hsame

/-- A text that leaves the last of `k + 1` bytes to a character of two. -/
def brimming (k : Nat) : String := String.ofList (List.replicate k 'a' ++ ['é'])

theorem length_encode_replicate (k : Nat) : (encode (String.ofList (List.replicate k 'a'))).length = k := by
  have hone : (encodeChar 'a').length = 1 := by decide
  rw [encode, String.toList_ofList, List.length_flatMap, List.map_replicate, hone, List.sum_replicate_nat,
    Nat.mul_one]

theorem behind_brimming (k : Nat) : Behind (k + 1) (brimming k) (String.ofList (List.replicate k 'a')) 'é' where
  begins := ⟨[], by rw [brimming, String.toList_ofList, String.toList_ofList, List.append_nil]⟩
  before := by
    rw [length_encode_replicate]
    exact Nat.le_succ k
  past := by
    rw [length_encode_replicate]
    exact Nat.lt_succ_self (k + 1)

theorem excerpt_shows_brimming :
    2048 < (encode (brimming 2047)).length ∧ CutsCharacter 2048 (brimming 2047) ∧
    ∃ p, LongestFit 2048 (brimming 2047) p ∧ excerpt (encode (brimming 2047)) = p ++ "\uFFFD" ++ "..." := by
  have hlong : 2048 < (encode (brimming 2047)).length := (behind_brimming 2047).lt_length
  have hcut : CutsCharacter 2048 (brimming 2047) :=
    ⟨_, _, behind_brimming 2047, Nat.lt_succ_of_le (Nat.le_of_eq (length_encode_replicate 2047))⟩
  obtain ⟨p, hp, hshown, -⟩ := excerpt_shows.2.1 (brimming 2047) hlong
  exact ⟨hlong, hcut, p, hp, hshown hcut⟩

end FlowCluster
