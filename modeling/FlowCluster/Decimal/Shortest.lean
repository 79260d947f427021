import FlowCluster.Decimal.Binary64

/-! # The fewest digits that read back

The decimal number with the fewest digits that lies in the interval of reals rounding to a given magnitude, and
among those the nearest to it, a tie going to the even last digit. The interval holds its ends exactly when the
mantissa is even. If some point of a decimal grid lies in the interval, then so does one of the two points of
that grid next to the magnitude, so two tests for each count of digits are enough. -/

namespace FlowCluster.Decimal

/-- The number `digits · 10^exponent`. -/
structure Scaled where
  digits : Nat
  exponent : Int
  deriving DecidableEq, Repr

/-- The interval of reals that round to a magnitude, all over one denominator. -/
structure Interval where
  low : Nat
  value : Nat
  high : Nat
  denominator : Nat
  closed : Bool

namespace Interval

/-- The interval around a magnitude. Below a power of two the spacing is half of that above it. -/
def around (x : Binary64) : Interval :=
  let below := if x.mantissa = Nat.pow 2 52 ∧ x.exponent > -1074 then 1 else 2
  let e := x.exponent - 2
  let up := if e ≥ 0 then Nat.pow 2 e.toNat else 1
  let down := if e ≥ 0 then 1 else Nat.pow 2 (-e).toNat
  { low := (4 * x.mantissa - below) * up
    value := 4 * x.mantissa * up
    high := (4 * x.mantissa + 2) * up
    denominator := down
    closed := x.mantissa % 2 = 0 }

/-- Whether `num / den` rounds to the magnitude. -/
def holds (i : Interval) (num den : Nat) : Bool :=
  let n := num * i.denominator
  if i.closed then i.low * den ≤ n && n ≤ i.high * den else i.low * den < n && n < i.high * den

end Interval

/-- How many decimal digits a number has; zero has one. -/
def countDigits (n : Nat) : Nat := (Nat.toDigits 10 n).length

/-- The least `p` with `num / den < 10^p`. -/
def magnitudeOf (num den : Nat) : Int :=
  if den ≤ num then countDigits (num / den) else 1 - (countDigits ((den - 1) / num) : Int)

/-- The grid of multiples of `10^e` as a unit `up / down`. -/
def gridUnit (e : Int) : Nat × Nat := if e ≥ 0 then (Nat.pow 10 e.toNat, 1) else (1, Nat.pow 10 (-e).toNat)

/-- The better of the two points next to the magnitude on the grid of `10^e`, if one lies in the interval. -/
def onGrid? (i : Interval) (e : Int) : Option Nat :=
  let (up, down) := gridUnit e
  let num := i.value * down
  let den := i.denominator * up
  let d := num / den
  match i.holds (d * up) down, i.holds ((d + 1) * up) down with
  | true, true =>
    let r := num % den
    some (if 2 * r < den then d else if den < 2 * r then d + 1 else if d % 2 = 0 then d else d + 1)
  | true, false => some d
  | false, true => some (d + 1)
  | false, false => none

/-- The digits without trailing zeros, each of which is moved into the exponent. -/
def dropZeros : (steps : Nat) → Scaled → Scaled
  | 0, n => n
  | k + 1, n => if n.digits ≠ 0 ∧ n.digits % 10 = 0 then dropZeros k ⟨n.digits / 10, n.exponent + 1⟩ else n

/-- Tries `count`, `count + 1`, … digits for a magnitude below `10^top`. Seventeen are always enough. -/
def searchFrom (i : Interval) (top : Int) : (steps count : Nat) → Scaled
  | 0, _ => ⟨i.value / i.denominator, 0⟩
  | k + 1, count =>
    match onGrid? i (top - count) with
    | some d => dropZeros 20 ⟨d, top - count⟩
    | none => searchFrom i top k (count + 1)

/-- The shortest decimal that reads back as `x`, which is not zero. -/
def shortest (x : Binary64) : Scaled :=
  let i := Interval.around x
  searchFrom i (magnitudeOf i.value i.denominator) 18 1

end FlowCluster.Decimal
