/-! # Characters as bytes

The encoding of characters as one to four bytes, and its reading. A byte string is cut into *pieces*:
characters, and maximal runs of bytes that begin an encoding and cannot be completed. Strict reading asks for
characters only; lenient reading shows every other piece as one replacement character. -/

namespace FlowCluster

/-- Bytes as they come off the wire. -/
abbrev Bytes := List UInt8

namespace Text.Utf8

/-- The bytes of one character. -/
def encodeChar (c : Char) : Bytes :=
  let n := c.toNat
  if n < 0x80 then [n.toUInt8]
  else if n < 0x800 then [(0xC0 + n / 64).toUInt8, (0x80 + n % 64).toUInt8]
  else if n < 0x10000 then
    [(0xE0 + n / 4096).toUInt8, (0x80 + n / 64 % 64).toUInt8, (0x80 + n % 64).toUInt8]
  else
    [(0xF0 + n / 262144).toUInt8, (0x80 + n / 4096 % 64).toUInt8, (0x80 + n / 64 % 64).toUInt8,
      (0x80 + n % 64).toUInt8]

def encode (s : String) : Bytes := s.toList.flatMap encodeChar

/-- What the first byte of a longer encoding announces: the bits it carries, how many bytes follow, and the
range of the first of them. The range keeps out overlong forms, surrogates and numbers past U+10FFFF. -/
structure Lead where
  bits : Nat
  following : Nat
  low : UInt8
  high : UInt8

/-- The announcement of a first byte; `none` for a byte that begins no longer encoding. -/
def lead? (b : UInt8) : Option Lead :=
  if b < 0xC2 then none
  else if b < 0xE0 then some ⟨b.toNat - 0xC0, 1, 0x80, 0xBF⟩
  else if b = 0xE0 then some ⟨0, 2, 0xA0, 0xBF⟩
  else if b = 0xED then some ⟨0xD, 2, 0x80, 0x9F⟩
  else if b < 0xF0 then some ⟨b.toNat - 0xE0, 2, 0x80, 0xBF⟩
  else if b = 0xF0 then some ⟨0, 3, 0x90, 0xBF⟩
  else if b < 0xF4 then some ⟨b.toNat - 0xF0, 3, 0x80, 0xBF⟩
  else if b = 0xF4 then some ⟨4, 3, 0x80, 0x8F⟩
  else none

/-- Reads `count` continuation bytes after bits worth `n`. Bytes that do not continue are left unread. -/
def continuation : (count n : Nat) → Bytes → Option Char × Bytes
  | 0, n, r => (some (Char.ofNat n), r)
  | _ + 1, _, [] => (none, [])
  | k + 1, n, b :: r =>
    if 0x80 ≤ b ∧ b ≤ 0xBF then continuation k (n * 64 + (b.toNat - 0x80)) r else (none, b :: r)

/-- The first piece of `b :: r`, and what follows it. -/
def piece (b : UInt8) (r : Bytes) : Option Char × Bytes :=
  if b < 0x80 then (some (Char.ofNat b.toNat), r)
  else
    match lead? b with
    | none => (none, r)
    | some l =>
      match r with
      | [] => (none, [])
      | c :: r' =>
        if l.low ≤ c ∧ c ≤ l.high then continuation (l.following - 1) (l.bits * 64 + (c.toNat - 0x80)) r'
        else (none, r)

theorem length_continuation_le (count n : Nat) (r : Bytes) :
    (continuation count n r).2.length ≤ r.length := by
  induction count generalizing n r with
  | zero => simp [continuation]
  | succ k ih =>
    cases r with
    | nil => simp [continuation]
    | cons b r =>
      simp only [continuation]
      split
      · exact Nat.le_succ_of_le (ih _ _)
      · simp

/-- A piece takes at least its first byte. -/
theorem length_piece_le (b : UInt8) (r : Bytes) : (piece b r).2.length ≤ r.length := by
  unfold piece
  split
  · simp
  · split
    · simp
    · split
      · simp
      · split
        · exact Nat.le_succ_of_le (length_continuation_le _ _ _)
        · simp

/-- The pieces of a byte string, after those already `seen`, which are held in reverse. -/
def piecesAfter (seen : List (Option Char)) : Bytes → List (Option Char)
  | [] => seen.reverse
  | b :: r => piecesAfter ((piece b r).1 :: seen) (piece b r).2
termination_by s => s.length
decreasing_by have := length_piece_le b r; simp; omega

/-- The pieces of a byte string: `some` character, or `none` for a maximal run that is no character. -/
def pieces (s : Bytes) : List (Option Char) := piecesAfter [] s

/-- The text that a byte string encodes, if it is made of characters only. -/
def decode? (s : Bytes) : Option String :=
  let ps := pieces s
  if ps.all Option.isSome then some (String.ofList (ps.filterMap id)) else none

/-- Lenient reading: every piece that is no character is shown as one U+FFFD. -/
def lossy (s : Bytes) : String := String.ofList ((pieces s).map fun p => p.getD '\uFFFD')

/-- How many bytes stand before the first piece that is no character. -/
def validLength (s : Bytes) : Nat :=
  (((pieces s).takeWhile Option.isSome).filterMap id).foldl (fun n c => n + (encodeChar c).length) 0

private theorem piecesAfter_of_length (n : Nat) (seen : List (Option Char)) (s : Bytes)
    (h : s.length ≤ n) : piecesAfter seen s = seen.reverse ++ pieces s := by
  induction n generalizing seen s with
  | zero => simp [List.length_eq_zero_iff.mp (Nat.le_zero.mp h), pieces, piecesAfter]
  | succ n ih =>
    cases s with
    | nil => simp [pieces, piecesAfter]
    | cons b r =>
      have hr : (piece b r).2.length ≤ n :=
        Nat.le_trans (length_piece_le b r) (Nat.le_of_succ_le_succ h)
      have hp : pieces (b :: r) = (piece b r).1 :: pieces (piece b r).2 := by
        rw [pieces, piecesAfter, ih _ _ hr]
        simp
      rw [piecesAfter, ih _ _ hr, hp]
      simp

/-- The pieces already seen stand in front of those still to come. -/
theorem piecesAfter_eq (seen : List (Option Char)) (s : Bytes) :
    piecesAfter seen s = seen.reverse ++ pieces s :=
  piecesAfter_of_length _ seen s (Nat.le_refl _)

@[simp] theorem pieces_nil : pieces [] = [] := by simp [pieces, piecesAfter]

theorem pieces_cons (b : UInt8) (r : Bytes) :
    pieces (b :: r) = (piece b r).1 :: pieces (piece b r).2 := by
  rw [pieces, piecesAfter, piecesAfter_eq]
  simp

end Text.Utf8
end FlowCluster
