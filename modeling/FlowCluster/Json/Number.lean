import FlowCluster.Decimal.Shortest

/-! # Numbers of a document

A number is a whole number that fits 64 bits, signed or not, or else a magnitude of 53 significant bits with a
sign. Real numbers are written with the fewest digits that read back. -/

namespace FlowCluster.Json

/-- A number. Zero with a minus sign is a real number. -/
inductive Number
  | whole (value : Int) (inRange : -9223372036854775808 ≤ value ∧ value < 18446744073709551616)
  | real (negative : Bool) (magnitude : Decimal.Binary64)
  deriving DecidableEq, Repr

namespace Number

/-- The point stands among the digits for powers of ten from -5 to 15, and there is always one digit after it.
Past that range one digit stands before the point, and the power of ten follows with its sign. -/
def pointed (n : Decimal.Scaled) : List Char :=
  let ds := Nat.toDigits 10 n.digits
  let point : Int := ds.length + n.exponent
  if 0 ≤ n.exponent ∧ point ≤ 16 then ds ++ List.replicate n.exponent.toNat '0' ++ ['.', '0']
  else if 0 < point ∧ point ≤ 16 then ds.take point.toNat ++ '.' :: ds.drop point.toNat
  else if -5 < point ∧ point ≤ 0 then '0' :: '.' :: (List.replicate (-point).toNat '0' ++ ds)
  else
    let power := point - 1
    let mantissa := if ds.length = 1 then ds else ds.take 1 ++ '.' :: ds.drop 1
    mantissa ++ 'e' :: (if power < 0 then '-' else '+') :: Nat.toDigits 10 power.natAbs

/-- A whole number in decimal digits, with a minus sign if it is below zero. -/
def wholeChars (i : Int) : List Char :=
  if i < 0 then '-' :: Nat.toDigits 10 i.natAbs else Nat.toDigits 10 i.natAbs

def chars : Number → List Char
  | .whole i _ => wholeChars i
  | .real negative x =>
    let body := if x.isZero then ['0', '.', '0'] else pointed (Decimal.shortest x)
    if negative then '-' :: body else body

end Number

end FlowCluster.Json
