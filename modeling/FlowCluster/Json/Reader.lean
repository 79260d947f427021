import FlowCluster.Json.Fault

/-! # Readers

A reader takes a value off the front of the bytes still unread. What it leaves is shorter than what it was given,
and carries the proof of that, so every loop over a document ends because its input shrinks. This module has the
parts that all readers share: white space, words, and the punctuation of lists and objects. -/

namespace FlowCluster.Json

/-- What is left of `s` after at least one byte. -/
structure Rest (s : Bytes) where
  bytes : Bytes
  shorter : bytes.length < s.length

/-- What is left of `s` after any number of bytes. -/
structure Tail (s : Bytes) where
  bytes : Bytes
  within : bytes.length ≤ s.length

/-- Takes a value off the front of `s`. -/
abbrev Reader (α : Type) := (s : Bytes) → Except Fault (α × Rest s)

/-- A reader that opens at most `depth` brackets inside one another. -/
abbrev Decoder (α : Type) := (depth : Nat) → Reader α

theorem length_le_self (s : Bytes) : s.length ≤ s.length := Nat.le_refl _

theorem length_le_cons (b : UInt8) (r : Bytes) : r.length ≤ (b :: r).length := Nat.le_succ _

theorem length_le_of_cons_le {b : UInt8} {r s : Bytes} (h : (b :: r).length ≤ s.length) : r.length ≤ s.length :=
  Nat.le_of_lt h

theorem Tail.length_lt_cons {r : Bytes} (t : Tail r) (b : UInt8) : t.bytes.length < (b :: r).length :=
  Nat.lt_succ_of_le t.within

theorem Tail.length_rest_le {s origin : Bytes} (t : Tail s) (r : Rest t.bytes) (h : s.length ≤ origin.length) :
    r.bytes.length ≤ origin.length :=
  Nat.le_trans (Nat.le_of_lt r.shorter) (Nat.le_trans t.within h)

/-- What is left of the tail of `s` is left of `s`. -/
def Rest.widen {s t : Bytes} (r : Rest t) (h : t.length ≤ s.length) : Rest s :=
  ⟨r.bytes, Nat.lt_of_lt_of_le r.shorter h⟩

/-- The four bytes that may stand between the parts of a document. -/
def isBlank (b : UInt8) : Bool := b == 0x20 || b == 0x0A || b == 0x09 || b == 0x0D

/-- The bytes from the first that is not white space. -/
def skipBlank (s : Bytes) : Bytes := s.dropWhile isBlank

theorem length_skipBlank_le (s : Bytes) : (skipBlank s).length ≤ s.length :=
  (List.dropWhile_suffix isBlank).length_le

/-- The tail from the first byte that is not white space. -/
def content (s : Bytes) : Tail s := ⟨skipBlank s, length_skipBlank_le s⟩

/-- Reads the bytes of a word. -/
def word : (expected : Bytes) → (s : Bytes) → Except Fault (Tail s)
  | [], s => .ok ⟨s, length_le_self s⟩
  | _ :: _, [] => .error (.before [] .endInValue)
  | e :: es, b :: r =>
    if b = e then
      match word es r with
      | .error f => .error f
      | .ok t => .ok ⟨t.bytes, Nat.le_succ_of_le t.within⟩
    else .error (.before r .badWord)

/-- What comes next inside brackets: their end, or one more item. -/
inductive Turn (s : Bytes)
  | closed (rest : Rest s)
  | item (tail : Tail s)

/-- Before the first item of a list or after any other: the closing bracket, or the start of an item. -/
def listTurn (first : Bool) (s : Bytes) : Except Fault (Turn s) :=
  match content s with
  | ⟨[], _⟩ => .error (.before [] .endInList)
  | ⟨b :: r, h⟩ =>
    if b = ']'.toUInt8 then .ok (.closed ⟨r, h⟩)
    else if first then .ok (.item ⟨b :: r, h⟩)
    else if b = ','.toUInt8 then
      match content r with
      | ⟨[], _⟩ => .error (.before [] .endInValue)
      | ⟨c :: q, h'⟩ =>
        if c = ']'.toUInt8 then .error (.past (c :: q) .trailingComma)
        else .ok (.item ⟨c :: q, Nat.le_trans h' (Nat.le_of_lt h)⟩)
    else .error (.past (b :: r) .noListSeparator)

/-- After the last item a list may have: the closing bracket. -/
def listEnd (s : Bytes) : Except Fault (Rest s) :=
  match content s with
  | ⟨[], _⟩ => .error (.before [] .endInList)
  | ⟨b :: r, h⟩ =>
    if b = ']'.toUInt8 then .ok ⟨r, h⟩
    else if b = ','.toUInt8 then
      match skipBlank r with
      | [] => .error (.before [] .trailingCharacters)
      | c :: q =>
        .error (.past (c :: q) (if c = ']'.toUInt8 then .trailingComma else .trailingCharacters))
    else .error (.past (b :: r) .trailingCharacters)

/-- Before the first member of an object or after any other: the closing bracket, or the opening quote of a key,
which is taken. -/
def objectTurn (first : Bool) (s : Bytes) : Except Fault (Turn s) :=
  match content s with
  | ⟨[], _⟩ => .error (.before [] .endInObject)
  | ⟨b :: r, h⟩ =>
    if b = '\x7d'.toUInt8 then .ok (.closed ⟨r, h⟩)
    else if first then
      if b = '"'.toUInt8 then .ok (.item ⟨r, Nat.le_of_lt h⟩) else .error (.past (b :: r) .keyNotString)
    else if b = ','.toUInt8 then
      match content r with
      | ⟨[], _⟩ => .error (.before [] .endInValue)
      | ⟨c :: q, h'⟩ =>
        if c = '"'.toUInt8 then .ok (.item ⟨q, Nat.le_trans (Nat.le_of_lt h') (Nat.le_of_lt h)⟩)
        else if c = '\x7d'.toUInt8 then .error (.past (c :: q) .trailingComma)
        else .error (.past (c :: q) .keyNotString)
    else .error (.past (b :: r) .noObjectSeparator)

/-- The colon between a key and its value. -/
def colon (s : Bytes) : Except Fault (Rest s) :=
  match content s with
  | ⟨[], _⟩ => .error (.before [] .endInObject)
  | ⟨b :: r, h⟩ => if b = ':'.toUInt8 then .ok ⟨r, h⟩ else .error (.past (b :: r) .noColon)

/-- The items of a list up to its closing bracket, after those already `seen`, which are held in reverse. -/
def items {α : Type} (item : Reader α) (origin : Bytes) (seen : List α) (first : Bool) (s : Bytes)
    (h : s.length ≤ origin.length) : Except Fault (List α × Rest origin) :=
  match listTurn first s with
  | .error f => .error f
  | .ok (.closed r) => .ok (seen.reverse, r.widen h)
  | .ok (.item t) =>
    match item t.bytes with
    | .error f => .error f
    | .ok (x, r) =>
      items item origin (x :: seen) false r.bytes (t.length_rest_le r h)
termination_by s.length
decreasing_by exact Nat.lt_of_lt_of_le r.shorter t.within

end FlowCluster.Json
