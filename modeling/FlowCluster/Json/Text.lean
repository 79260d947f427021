import FlowCluster.Json.Reader

/-! # Strings of a document

Reading starts after the opening quote. A string that is wanted is read to the bytes it denotes, which must
encode text; a string that is skipped is only scanned, so neither its surrogates nor its bytes are looked at. -/

namespace FlowCluster.Json

/-- The value of a digit in base sixteen, of either case. -/
def hexValue? (b : UInt8) : Option Nat :=
  if '0'.toUInt8 ≤ b ∧ b ≤ '9'.toUInt8 then some (b.toNat - 0x30)
  else if 'a'.toUInt8 ≤ b ∧ b ≤ 'f'.toUInt8 then some (b.toNat - 0x57)
  else if 'A'.toUInt8 ≤ b ∧ b ≤ 'F'.toUInt8 then some (b.toNat - 0x37)
  else none

/-- The number that four digits in base sixteen write. -/
def hexQuad? (a b c d : UInt8) : Option Nat :=
  match hexValue? a, hexValue? b, hexValue? c, hexValue? d with
  | some w, some x, some y, some z => some (((w * 16 + x) * 16 + y) * 16 + z)
  | _, _, _, _ => none

def hexQuad : Reader Nat
  | a :: b :: c :: d :: r =>
    match hexQuad? a b c d with
    | some n => .ok (n, ⟨r, by simp; omega⟩)
    | none => .error (.before r .badEscape)
  | _ => .error (.before [] .endInString)

/-- The byte that a short escape stands for. -/
def shortEscape? (b : UInt8) : Option UInt8 :=
  if b = '"'.toUInt8 then some '"'.toUInt8
  else if b = '\\'.toUInt8 then some '\\'.toUInt8
  else if b = '/'.toUInt8 then some '/'.toUInt8
  else if b = 'b'.toUInt8 then some 0x08
  else if b = 'f'.toUInt8 then some 0x0C
  else if b = 'n'.toUInt8 then some 0x0A
  else if b = 'r'.toUInt8 then some 0x0D
  else if b = 't'.toUInt8 then some 0x09
  else none

/-- Numbers of the first half of a pair of surrogates. -/
def isHighSurrogate (n : Nat) : Bool := 0xD800 ≤ n && n ≤ 0xDBFF

/-- Numbers of the second half of a pair of surrogates. -/
def isLowSurrogate (n : Nat) : Bool := 0xDC00 ≤ n && n ≤ 0xDFFF

/-- The second half of a pair, which must follow the first at once. -/
def lowSurrogate : Reader Nat
  | [] => .error (.before [] .endInString)
  | b :: r =>
    if b ≠ '\\'.toUInt8 then .error (.before r .halfEscape)
    else
      match r with
      | [] => .error (.before [] .endInString)
      | c :: q =>
        if c ≠ 'u'.toUInt8 then .error (.before q .halfEscape)
        else
          match hexQuad q with
          | .error f => .error f
          | .ok (n, t) =>
            if isLowSurrogate n then .ok (n, t.widen (by simp; omega))
            else .error (.before t.bytes .loneSurrogate)

/-- The character written by its number, after the letter `u`: one escape, or two for a pair of surrogates. -/
def numberedCharacter (s : Bytes) : Except Fault (Char × Rest s) :=
  match hexQuad s with
  | .error f => .error f
  | .ok (n, r) =>
    if isLowSurrogate n then .error (.before r.bytes .loneSurrogate)
    else if isHighSurrogate n then
      match lowSurrogate r.bytes with
      | .error f => .error f
      | .ok (m, q) =>
        .ok (Char.ofNat (0x10000 + (n - 0xD800) * 0x400 + (m - 0xDC00)), q.widen (Nat.le_of_lt r.shorter))
    else .ok (Char.ofNat n, r)

/-- What an escape denotes, after its backslash. -/
def escape : Reader Bytes
  | [] => .error (.before [] .endInString)
  | b :: r =>
    match shortEscape? b with
    | some c => .ok ([c], ⟨r, Nat.lt_succ_self _⟩)
    | none =>
      if b = 'u'.toUInt8 then
        match numberedCharacter r with
        | .error f => .error f
        | .ok (c, q) => .ok (Text.Utf8.encodeChar c, q.widen (length_le_cons b r))
      else .error (.before r .badEscape)

/-- The bytes that a string denotes up to its closing quote, after those already `seen`, which are held in
reverse. -/
def stringBytes (origin : Bytes) (seen : Bytes) (s : Bytes) (h : s.length ≤ origin.length) :
    Except Fault (Bytes × Rest origin) :=
  match s with
  | [] => .error (.before [] .endInString)
  | b :: r =>
    if b = '"'.toUInt8 then .ok (seen.reverse, ⟨r, h⟩)
    else if b = '\\'.toUInt8 then
      match escape r with
      | .error f => .error f
      | .ok (cs, q) =>
        stringBytes origin (cs.reverse ++ seen) q.bytes
          (Nat.le_of_lt (Nat.lt_trans q.shorter h))
    else if b < 0x20 then .error (.before r .controlCharacter)
    else stringBytes origin (b :: seen) r (length_le_of_cons_le h)
termination_by s.length
decreasing_by
  · exact Nat.lt_succ_of_lt q.shorter
  · exact Nat.lt_succ_self _

/-- Reads a string to its text. A byte that is no part of a character is reported as far before the end of the
string as the denoted bytes from it on are long. -/
def string : Reader String := fun s =>
  match stringBytes s [] s (length_le_self s) with
  | .error f => .error f
  | .ok (bytes, r) =>
    match Text.Utf8.decode? bytes with
    | some text => .ok (text, r)
    | none => .error ⟨.badCharacter, r.bytes.length + (bytes.length - Text.Utf8.validLength bytes)⟩

def skipEscape : (s : Bytes) → Except Fault (Rest s)
  | [] => .error (.before [] .endInString)
  | b :: r =>
    match shortEscape? b with
    | some _ => .ok ⟨r, Nat.lt_succ_self _⟩
    | none =>
      if b = 'u'.toUInt8 then
        match hexQuad r with
        | .error f => .error f
        | .ok (_, q) => .ok (q.widen (length_le_cons b r))
      else .error (.before r .badEscape)

/-- Passes over a string up to its closing quote. -/
def skipString (origin : Bytes) (s : Bytes) (h : s.length ≤ origin.length) : Except Fault (Rest origin) :=
  match s with
  | [] => .error (.before [] .endInString)
  | b :: r =>
    if b = '"'.toUInt8 then .ok ⟨r, h⟩
    else if b = '\\'.toUInt8 then
      match skipEscape r with
      | .error f => .error f
      | .ok q => skipString origin q.bytes (Nat.le_of_lt (Nat.lt_trans q.shorter h))
    else if b < 0x20 then .error (.before (b :: r) .controlCharacter)
    else skipString origin r (length_le_of_cons_le h)
termination_by s.length
decreasing_by
  · exact Nat.lt_succ_of_lt q.shorter
  · exact Nat.lt_succ_self _

end FlowCluster.Json
