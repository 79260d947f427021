/-! # Names in letters, digits and dashes

A text in any script is written with the ASCII characters it has, a dash, and numbers that say where the others go. The
others come in ascending order of their codes. A number tells how far the next insertion is from the last one, when one
counts through the places of a text and, from its end, on to the next code. Its digits have the base thirty-six, the
least one first; which digits end a number depends on their place and on a bias that follows the size of the numbers
before. -/

namespace FlowCluster.Url.Domain.Punycode

def base : Nat := 36

def firstBias : Nat := 72

/-- The first code past ASCII. -/
def firstCode : Nat := 0x80

/-- Numbers stay below this one. -/
def limit : Nat := Nat.pow 2 32

/-- The digit of a value: letters stand before digits. -/
def digit (n : Nat) : Char := Char.ofNat (if n < 26 then 0x61 + n else 0x30 + (n - 26))

def value? (c : Char) : Option Nat :=
  if c.isLower then some (c.toNat - 0x61)
  else if c.isDigit then some (c.toNat - 0x30 + 26)
  else none

/-- A digit below this value ends a number. Places count in steps of the base. -/
def threshold (bias place : Nat) : Nat := max 1 (min 26 (place - bias))

/-- Adds to a bias what the size of a number brings. -/
def settle (delta bias : Nat) : Nat :=
  if 455 < delta then settle (delta / 35) (bias + base) else bias + base * delta / (delta + 38)
termination_by delta
decreasing_by omega

/-- The bias after a number that has made a text `length` characters long. -/
def adapt (delta length : Nat) (first : Bool) : Nat :=
  let d := delta / if first then 700 else 2
  settle (d + d / length) 0

/-- The digits of a number from a place on. -/
def digits (bias place n : Nat) : List Char :=
  let t := threshold bias place
  if n < t then [digit n]
  else digit (t + (n - t) % (base - t)) :: digits bias (place + base) ((n - t) / (base - t))
termination_by n
decreasing_by
  have h : 1 ≤ threshold bias place := Nat.le_max_left ..
  have := Nat.div_le_self (n - threshold bias place) (base - threshold bias place)
  omega

/-- The state of writing: what has been written in reverse, the code that comes next, how many places have been passed
since the last insertion, the bias, and how many characters are done. -/
structure Writing where
  written : List Char
  code : Nat
  passed : Nat
  bias : Nat
  done : Nat
  deriving DecidableEq, Repr

namespace Writing

/-- Passes by one character of a text in which `basic` characters are in ASCII. If it has the code, it is inserted
there. -/
def visit (basic : Nat) (w : Writing) (c : Char) : Writing :=
  if c.toNat < w.code then { w with passed := w.passed + 1 }
  else if c.toNat = w.code then
    { w with
      written := (digits w.bias base w.passed).reverse ++ w.written
      passed := 0
      bias := adapt w.passed (w.done + 1) (w.done == basic)
      done := w.done + 1 }
  else w

/-- Inserts all characters of a code. -/
def insert (basic : Nat) (cs : List Char) (w : Writing) (code : Nat) : Writing :=
  let w := { w with code, passed := w.passed + (code - w.code) * (w.done + 1) }
  let w := cs.foldl (visit basic) w
  { w with code := code + 1, passed := w.passed + 1 }

end Writing

def encode (cs : List Char) : List Char :=
  let basic := cs.filter fun c => c.toNat < firstCode
  let codes := ((cs.filter fun c => firstCode ≤ c.toNat).map Char.toNat).mergeSort.eraseDups
  let start : Writing := ⟨[], firstCode, 0, firstBias, basic.length⟩
  let numbers := (codes.foldl (Writing.insert basic.length cs) start).written.reverse
  (if basic.isEmpty then [] else basic ++ ['-']) ++ numbers

/-- The state of reading: the text so far, the code and the place of the next insertion if the number to come is zero,
the bias, and what has been read of that number: its value, and the weight and the place of its next digit. -/
structure Reading where
  text : List Char
  code : Nat
  index : Nat
  bias : Nat
  value : Nat
  weight : Nat
  place : Nat
  deriving DecidableEq, Repr

namespace Reading

def start (basic : List Char) : Reading := ⟨basic, firstCode, 0, firstBias, 0, 1, base⟩

/-- Inserts a character at the end of a number. -/
def insert? (r : Reading) (delta : Nat) : Option Reading :=
  let length := r.text.length + 1
  let index := (r.index + delta) % length
  let code := r.code + (r.index + delta) / length
  if code.isValidChar then
    some ⟨r.text.insertIdx index (Char.ofNat code), code, index + 1, adapt delta length (r.index == 0), 0, 1, base⟩
  else none

def take? (r : Reading) (c : Char) : Option Reading := do
  let d ← value? c
  let value := r.value + d * r.weight
  let t := threshold r.bias r.place
  if limit ≤ r.index + value then none
  else if d < t then r.insert? value
  else if limit ≤ r.weight * (base - t) then none
  else return { r with value, weight := r.weight * (base - t), place := r.place + base }

/-- Whether no number is left unfinished. -/
def isWhole (r : Reading) : Bool := r.place == base

end Reading

/-- The characters before the last dash and those after it. A dash in front sets nothing off. -/
def split? (cs : List Char) : Option (List Char × List Char) :=
  let numbers := (cs.reverse.takeWhile (· != '-')).reverse
  if numbers.length = cs.length then some ([], cs)
  else if numbers.length + 1 = cs.length then none
  else some (cs.take (cs.length - numbers.length - 1), numbers)

/-- Reads a text as it has been written, in small letters. -/
def decode? (cs : List Char) : Option (List Char) := do
  let (basic, numbers) ← split? cs
  let r ← numbers.foldlM Reading.take? (.start basic)
  if r.isWhole then some r.text else none

end FlowCluster.Url.Domain.Punycode
