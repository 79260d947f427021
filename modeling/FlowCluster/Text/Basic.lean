/-! # Texts and what they are read as

Texts that are cut at separators or trimmed, and the numbers that texts of digits stand for. -/

/-! ## Parts of a text

A text cut at separators. There is always one part more than there are separators, so the text can be put
together again from its parts. -/

namespace FlowCluster.Text

/-- The parts of a text between separators. -/
def parts (isSeparator : Char → Bool) : List Char → List (List Char)
  | [] => [[]]
  | c :: r =>
    if isSeparator c then [] :: parts isSeparator r
    else
      match parts isSeparator r with
      | [] => [[c]]
      | p :: ps => (c :: p) :: ps

theorem parts_ne_nil (isSeparator : Char → Bool) (cs : List Char) : parts isSeparator cs ≠ [] := by
  cases cs with
  | nil => simp [parts]
  | cons c r =>
    simp only [parts]
    split
    · simp
    · split <;> simp

/-- A text without separators is one part. -/
theorem parts_eq_singleton {isSeparator : Char → Bool} {cs : List Char}
    (h : ∀ c ∈ cs, isSeparator c = false) : parts isSeparator cs = [cs] := by
  induction cs with
  | nil => rfl
  | cons c r ih =>
    have hr := ih fun d hd => h d (List.mem_cons_of_mem c hd)
    simp [parts, h c, hr]

/-- A text without separators in front of a separator is the first part. -/
theorem parts_append_cons {isSeparator : Char → Bool} {cs : List Char} (s : Char) (rest : List Char)
    (h : ∀ c ∈ cs, isSeparator c = false) (hs : isSeparator s = true) :
    parts isSeparator (cs ++ s :: rest) = cs :: parts isSeparator rest := by
  induction cs with
  | nil => simp [parts, hs]
  | cons c r ih =>
    have hr := ih fun d hd => h d (List.mem_cons_of_mem c hd)
    simp [parts, h c, hr]

/-- A text up to its first `c`, and what follows that `c` if there is one. -/
def cutAt (c : Char) (cs : List Char) : List Char × Option (List Char) :=
  (cs.takeWhile (· != c), (cs.dropWhile (· != c)).tail?)

end FlowCluster.Text

/-! ## White space

The characters with the property White_Space, and trimming at both ends by them. -/

namespace FlowCluster.Text.Blank

/-- The White_Space property. -/
def isBlank (c : Char) : Bool :=
  let n := c.toNat
  (0x9 ≤ n && n ≤ 0xD) || n == 0x20 || n == 0x85 || n == 0xA0 || n == 0x1680 ||
    (0x2000 ≤ n && n ≤ 0x200A) || n == 0x2028 || n == 0x2029 || n == 0x202F || n == 0x205F || n == 0x3000

/-- Characters without the white space at both ends. -/
def trimChars (cs : List Char) : List Char :=
  ((cs.dropWhile isBlank).reverse.dropWhile isBlank).reverse

/-- A text without the white space at both ends. -/
def trim (s : String) : String := String.ofList (trimChars s.toList)

/-- A text of white space alone says nothing; the empty text is one. -/
def isEmpty (s : String) : Bool := s.toList.all isBlank

end FlowCluster.Text.Blank

/-! ## Digits in base sixteen

Digits of either case, and numbers written with them. -/

namespace FlowCluster.Text.Hex

def value? (c : Char) : Option Nat :=
  if '0' ≤ c ∧ c ≤ '9' then some (c.toNat - 0x30)
  else if 'a' ≤ c ∧ c ≤ 'f' then some (c.toNat - 0x57)
  else if 'A' ≤ c ∧ c ≤ 'F' then some (c.toNat - 0x37)
  else none

/-- The number that some digits stand for; none stand for zero. -/
def number? (cs : List Char) : Option Nat := cs.foldlM (fun n c => (value? c).map (n * 16 + ·)) 0

end FlowCluster.Text.Hex

/-! ## Decimal counts of 64 bits

Reads a count as a command line or an environment writes it: an optional plus sign, then digits only, for a
number below 2^64. Characters are taken from the left, and the first that cannot be taken decides the error. -/

namespace FlowCluster.Text.Count

/-- Why a text is no count. -/
inductive Refusal
  | missing
  | notADigit
  | tooLarge
  deriving DecidableEq, Repr

def Refusal.message : Refusal → String
  | .missing => "cannot parse integer from empty string"
  | .notADigit => "invalid digit found in string"
  | .tooLarge => "number too large to fit in target type"

/-- Counts are below this number. -/
def limit : Nat := Nat.pow 2 64

/-- Takes digits after those worth `n`. -/
def readDigits (n : Nat) : List Char → Except Refusal Nat
  | [] => .ok n
  | c :: r =>
    if c.isDigit then
      let m := n * 10 + (c.toNat - 0x30)
      if m < limit then readDigits m r else .error .tooLarge
    else .error .notADigit

/-- Reads a count: a sign alone is not one. -/
def readChars : List Char → Except Refusal Nat
  | [] => .error .missing
  | '+' :: [] => .error .notADigit
  | '+' :: r => readDigits 0 r
  | cs => readDigits 0 cs

def read (s : String) : Except Refusal Nat := readChars s.toList

end FlowCluster.Text.Count
