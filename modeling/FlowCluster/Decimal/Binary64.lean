/-! # Numbers of 53 significant bits

Magnitudes of the form m · 2^e with m below 2^53, in the range of the double format, and operations on them.
Every operation is the exact one followed by one rounding to the nearest such number, a tie going to the even m.
Everything is computed in natural numbers. -/

namespace FlowCluster.Decimal

/-- The magnitude `mantissa · 2^exponent`. As built here the mantissa is below 2^53, and it is at least 2^52
unless the exponent is the least one, -1074. -/
structure Binary64 where
  mantissa : Nat
  exponent : Int
  deriving DecidableEq, Repr

namespace Binary64

def zero : Binary64 := ⟨0, -1074⟩

def isZero (x : Binary64) : Bool := x.mantissa == 0

/-- The ratio `num / den` scaled by `2^(-e)`, as a fraction. -/
def scaled (num den : Nat) (e : Int) : Nat × Nat :=
  if e ≥ 0 then (num, den * Nat.pow 2 e.toNat) else (num * Nat.pow 2 (-e).toNat, den)

/-- The quotient rounded to the nearest whole number, a tie to the even one. -/
def roundQuotient (num den : Nat) : Nat :=
  let q := num / den
  let r := num % den
  if 2 * r < den then q else if den < 2 * r then q + 1 else if q % 2 = 0 then q else q + 1

/-- The exponent at which `num / den` has a whole part of 53 bits, or the least exponent if that is greater. -/
def exponentFor (num den : Nat) : Int :=
  let e : Int := (num.log2 : Int) - den.log2 - 53
  let (n, d) := scaled num den e
  max (-1074) (if n / d < Nat.pow 2 53 then e else e + 1)

/-- The number nearest to `num / den`; `none` if that is past the greatest one. -/
def ofRatio? (num den : Nat) : Option Binary64 :=
  if num = 0 then some zero
  else
    let e := exponentFor num den
    let (n, d) := scaled num den e
    let m := roundQuotient n d
    let x : Binary64 := if m = Nat.pow 2 53 then ⟨Nat.pow 2 52, e + 1⟩ else ⟨m, e⟩
    if x.exponent ≤ 971 then some x else none

def ofNat? (n : Nat) : Option Binary64 := ofRatio? n 1

def ratio (x : Binary64) : Nat × Nat :=
  if x.exponent ≥ 0 then (x.mantissa * Nat.pow 2 x.exponent.toNat, 1) else (x.mantissa, Nat.pow 2 (-x.exponent).toNat)

def add? (x y : Binary64) : Option Binary64 :=
  ofRatio? (x.ratio.1 * y.ratio.2 + y.ratio.1 * x.ratio.2) (x.ratio.2 * y.ratio.2)

def mul? (x y : Binary64) : Option Binary64 :=
  ofRatio? (x.ratio.1 * y.ratio.1) (x.ratio.2 * y.ratio.2)

/-- The quotient by a number that is not zero, rounded. -/
def div? (x y : Binary64) : Option Binary64 :=
  ofRatio? (x.ratio.1 * y.ratio.2) (x.ratio.2 * y.ratio.1)

/-- Whether a magnitude is greater than another. -/
def exceeds (x y : Binary64) : Bool := y.ratio.1 * x.ratio.2 < x.ratio.1 * y.ratio.2

end Binary64
end FlowCluster.Decimal
