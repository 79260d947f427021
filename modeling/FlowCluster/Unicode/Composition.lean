import FlowCluster.Unicode.Mark
import FlowCluster.Unicode.Pair

/-! # Composed texts

The same text can be written with characters that are made of others or with their parts, and with marks in different
orders. In its composed form every character is written as one where that is possible: the text is taken apart, the
marks behind each character are put in order, and characters are joined again with whatever is not kept from them by a
mark of the same class. -/

namespace FlowCluster.Unicode

/-! Syllables of Hangul: nineteen initial consonants, twenty-one vowels, and twenty-seven final consonants or none. -/

namespace Hangul

def firstSyllable : Nat := 0xAC00
def firstInitial : Nat := 0x1100
def firstVowel : Nat := 0x1161

/-- The number before the one of the first final consonant. -/
def noFinal : Nat := 0x11A7

def initials : Nat := 19
def vowels : Nat := 21

/-- Final consonants, and having none. -/
def finals : Nat := 28

def letters? (c : Char) : Option (List Char) :=
  let n := c.toNat - firstSyllable
  if firstSyllable ≤ c.toNat ∧ n < initials * vowels * finals then
    let pair := [firstInitial + n / finals / vowels, firstVowel + n / finals % vowels]
    let final := if n % finals = 0 then [] else [noFinal + n % finals]
    some ((pair ++ final).map Char.ofNat)
  else none

/-- The syllable of an initial consonant and a vowel, or of a syllable without a final consonant and one. -/
def syllable? (a b : Char) : Option Char :=
  let (i, v, f) := (a.toNat - firstInitial, b.toNat - firstVowel, b.toNat - noFinal)
  let s := a.toNat - firstSyllable
  if firstInitial ≤ a.toNat ∧ i < initials ∧ firstVowel ≤ b.toNat ∧ v < vowels then
    some (Char.ofNat (firstSyllable + (i * vowels + v) * finals))
  else if firstSyllable ≤ a.toNat ∧ s < initials * vowels * finals ∧ s % finals = 0 ∧ 0 < f ∧ f < finals then
    some (Char.ofNat (a.toNat + f))
  else none

end Hangul

namespace Composition

open CombiningClass (combiningClass)

/-- The parts of a character that has at most `depth` parts one in the other. The second part of a pair has none. -/
def parts (depth : Nat) (c : Char) : List Char :=
  match depth, Hangul.letters? c, Pair.table.entry? c with
  | _, some letters, _ => letters
  | d + 1, none, some (a, b) => parts d a ++ [b]
  | _, _, _ => [c]

/-- A text taken apart. No character has more than three parts one in the other. -/
def decompose (cs : List Char) : List Char := cs.flatMap (parts 3)

/-- Puts a mark in front of an ordered text, behind the marks of lower classes. -/
def place (c : Char) : List Char → List Char
  | [] => [c]
  | d :: r =>
    if 0 < combiningClass d ∧ combiningClass d < combiningClass c then d :: place c r else c :: d :: r

/-- A text with its marks in order. -/
def order (cs : List Char) : List Char := cs.foldr place []

/-- The character that two others make. -/
def join? (a b : Char) : Option Char :=
  match Hangul.syllable? a b with
  | some c => some c
  | none => (Array.find? (fun r => r.entry == (a, b)) Pair.table).map fun r => Char.ofNat r.first

/-- Joins `start` with what follows, where `between` are the marks that have not been joined with it. -/
def joinFrom (start : Char) (between : List Char) : List Char → List Char
  | [] => start :: between
  | c :: r =>
    let blocked := between.getLast?.any fun m => combiningClass c ≤ combiningClass m
    match if blocked then none else join? start c with
    | some p => joinFrom p between r
    | none =>
      if combiningClass c = 0 then start :: (between ++ joinFrom c [] r) else joinFrom start (between ++ [c]) r

/-- Joins an ordered text. Marks in front of the first other character stay. -/
def join : List Char → List Char
  | [] => []
  | c :: r => if combiningClass c = 0 then joinFrom c [] r else c :: join r

/-- The composed form of a text. -/
def compose (cs : List Char) : List Char := join (order (decompose cs))

end Composition
end FlowCluster.Unicode
