import FlowCluster.Json.Reader

/-! # Numerals

The written parts of a number, their reading, and the number they stand for. Digits are gathered into a word of
64 bits until one does not fit; then the word, rounded to 53 bits, is scaled once by the remaining power of ten.
So a real number is not always the one nearest to its numeral. -/

namespace FlowCluster.Json

/-- The parts of a written number. There is a point exactly if the fraction has digits. -/
structure Numeral where
  negative : Bool
  whole : Bytes
  fraction : Bytes
  exponent : Option (Bool × Bytes)
  deriving DecidableEq, Repr

namespace Numeral

def digitValue (b : UInt8) : Nat := b.toNat - 0x30

/-- The number that digits write, after those worth `n`. -/
def digitsValue (n : Nat) (ds : Bytes) : Nat := ds.foldl (fun n b => n * 10 + digitValue b) n

/-- Digits before the point: those that fit the word, and how many do not. -/
def gatherWhole (ds : Bytes) : Nat × Nat :=
  ds.foldl (fun (n, dropped) b =>
    let m := n * 10 + digitValue b
    if dropped = 0 ∧ m < Nat.pow 2 64 then (m, 0) else (n, dropped + 1)) (0, 0)

/-- Digits after the point, on top of the word `n`: how many are taken before one does not fit; none is taken
after it. -/
def gatherFraction (n : Nat) (ds : Bytes) : Nat × Nat :=
  let (m, taken, _) := ds.foldl (fun (n, taken, full) b =>
    let m := n * 10 + digitValue b
    if full = false ∧ m < Nat.pow 2 64 then (m, taken + 1, false) else (n, taken, true)) (n, 0, false)
  (m, taken)

/-- The power of ten that is written out. -/
def writtenExponent (x : Numeral) : Int :=
  match x.exponent with
  | none => 0
  | some (negative, ds) => if negative then -(digitsValue 0 ds : Int) else digitsValue 0 ds

/-- A power of ten in 53 bits; exact up to the 22nd, and nearest above. -/
def powerOfTen (n : Nat) : Decimal.Binary64 := (Decimal.Binary64.ofNat? (Nat.pow 10 n)).getD .zero

/-- The greatest power of ten that is a number. -/
def greatestPower : Nat := 308

/-- Divides by the greatest power of ten `steps` times and then by `10^last`. Zero stays what it is. -/
def scaleDown (last : Nat) : (steps : Nat) → Decimal.Binary64 → Option Decimal.Binary64
  | 0, x => x.div? (powerOfTen last)
  | k + 1, x =>
    if x.isZero then some x else (x.div? (powerOfTen greatestPower)).bind (scaleDown last k)

/-- Multiplies by `10^e`; `none` if the product is past the greatest number. -/
def scale (e : Int) (x : Decimal.Binary64) : Option Decimal.Binary64 :=
  if e < 0 then
    let steps := (e.natAbs - 1) / greatestPower
    scaleDown (e.natAbs - steps * greatestPower) steps x
  else if e ≤ greatestPower then x.mul? (powerOfTen e.natAbs)
  else if x.isZero then some x
  else none

/-- The number that a numeral stands for; `none` if it is out of range. -/
def number? (x : Numeral) : Option Number :=
  let (n, dropped) := gatherWhole x.whole
  let i : Int := if x.negative then -(n : Int) else n
  let fits := -9223372036854775808 ≤ i ∧ i < 18446744073709551616
  if h : (x.fraction = [] ∧ x.exponent = none ∧ dropped = 0 ∧ ¬(x.negative = true ∧ n = 0)) ∧ fits then
    some (.whole i h.2)
  else
    let (m, taken) := gatherFraction n x.fraction
    match Decimal.Binary64.ofNat? m with
    | none => none
    | some y => (scale ((dropped : Int) - taken + x.writtenExponent) y).map (.real x.negative)

/-- The greatest exponent that is counted digit by digit. -/
def exponentLimit : Nat := 2147483647

/-- How many digits follow the one with which an exponent worth `n` so far passes the limit. -/
def digitsPastLimit (n : Nat) : Bytes → Nat
  | [] => 0
  | b :: r => if n * 10 + digitValue b > exponentLimit then r.length else digitsPastLimit (n * 10 + digitValue b) r

/-- How many bytes of a numeral out of range are left unread when that is known. -/
def unreadWhenOutOfRange (x : Numeral) : Nat :=
  match x.exponent with
  | some (_, ds) => digitsPastLimit 0 ds
  | none => 0

def isDigit (b : UInt8) : Bool := '0'.toUInt8 ≤ b && b ≤ '9'.toUInt8

/-- The bytes from the first that is not a digit. -/
def afterDigits (s : Bytes) : Bytes := s.dropWhile isDigit

theorem length_afterDigits_le (s : Bytes) : (afterDigits s).length ≤ s.length :=
  (List.dropWhile_suffix isDigit).length_le

/-- Reads the digits before the point. A zero is not followed by another digit. -/
def readWhole (atEnd : Problem) : Reader Bytes
  | [] => .error (.before [] atEnd)
  | b :: r =>
    if b = '0'.toUInt8 then
      match r with
      | c :: q => if isDigit c then .error (.past (c :: q) .badNumber) else .ok ([b], ⟨c :: q, Nat.lt_succ_self _⟩)
      | [] => .ok ([b], ⟨[], Nat.zero_lt_succ _⟩)
    else if isDigit b then
      .ok (b :: r.takeWhile isDigit, ⟨afterDigits r, Nat.lt_succ_of_le (length_afterDigits_le r)⟩)
    else .error (.before r .badNumber)

/-- Reads a point with the digits after it, or nothing. -/
def readFraction (atEnd : Problem) : (s : Bytes) → Except Fault (Bytes × Tail s)
  | [] => .ok ([], ⟨[], Nat.le_refl _⟩)
  | b :: r =>
    if b = '.'.toUInt8 then
      match r.takeWhile isDigit, afterDigits r with
      | [], [] => .error (.before [] atEnd)
      | [], c :: q => .error (.past (c :: q) .badNumber)
      | d :: ds, _ => .ok (d :: ds, ⟨afterDigits r, Nat.le_succ_of_le (length_afterDigits_le r)⟩)
    else .ok ([], ⟨b :: r, Nat.le_refl _⟩)

/-- A sign in front of an exponent: whether it is a minus, and what follows. -/
def readSign : (s : Bytes) → Bool × Tail s
  | [] => (false, ⟨[], Nat.le_refl _⟩)
  | b :: r =>
    if b = '-'.toUInt8 then (true, ⟨r, Nat.le_succ _⟩)
    else if b = '+'.toUInt8 then (false, ⟨r, Nat.le_succ _⟩)
    else (false, ⟨b :: r, Nat.le_refl _⟩)

/-- Reads an exponent, or nothing. -/
def readExponent (atEnd : Problem) : (s : Bytes) → Except Fault (Option (Bool × Bytes) × Tail s)
  | [] => .ok (none, ⟨[], Nat.le_refl _⟩)
  | b :: r =>
    if b = 'e'.toUInt8 ∨ b = 'E'.toUInt8 then
      match readSign r with
      | (_, ⟨[], _⟩) => .error (.before [] atEnd)
      | (negative, ⟨c :: q, h⟩) =>
        if isDigit c then
          .ok (some (negative, c :: q.takeWhile isDigit),
            ⟨afterDigits q, Nat.le_trans (length_afterDigits_le q) (Nat.le_trans (Nat.le_of_lt h) (Nat.le_succ _))⟩)
        else .error (.before q .badNumber)
    else .ok (none, ⟨b :: r, Nat.le_refl _⟩)

/-- Reads the numeral after its sign. `atEnd` is the problem of a document that ends where a digit must stand. -/
def readUnsigned (atEnd : Problem) (negative : Bool) : Reader Numeral := fun s =>
  match readWhole atEnd s with
  | .error f => .error f
  | .ok (whole, r) =>
    match readFraction atEnd r.bytes with
    | .error f => .error f
    | .ok (fraction, t) =>
      match readExponent atEnd t.bytes with
      | .error f => .error f
      | .ok (exponent, u) =>
        .ok (⟨negative, whole, fraction, exponent⟩,
          ⟨u.bytes, Nat.lt_of_le_of_lt u.within (Nat.lt_of_le_of_lt t.within r.shorter)⟩)

def read (atEnd : Problem) : Reader Numeral
  | [] => .error (.before [] atEnd)
  | b :: r =>
    if b = '-'.toUInt8 then
      match readUnsigned atEnd true r with
      | .error f => .error f
      | .ok (x, q) => .ok (x, q.widen (Nat.le_succ _))
    else readUnsigned atEnd false (b :: r)

end Numeral

def number : Reader Number := fun s =>
  match Numeral.read .endInValue s with
  | .error f => .error f
  | .ok (x, r) =>
    match x.number? with
    | some n => .ok (n, r)
    | none => .error ⟨.numberOutOfRange, r.bytes.length + x.unreadWhenOutOfRange⟩

end FlowCluster.Json
