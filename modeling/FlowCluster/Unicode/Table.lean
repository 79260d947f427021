import FlowCluster.Text.Basic

/-! # Tables of character properties

What a standard says about characters is written down as lines of words. A word is a run of code points in base
sixteen, `61` or `61-7A`, and after a colon what the table says about the run. The runs of a table ascend, so that the
run of a character is found by halving. -/

namespace FlowCluster.Unicode

/-- A number in base sixteen, with digits of upper case. -/
def number (cs : List Char) : Nat :=
  cs.foldl (fun n c => n * 16 + (c.toNat - if c.isDigit then 0x30 else 0x37)) 0

/-- Numbers with a separator between them. No text is no number. -/
def numbers (separator : Char) (cs : List Char) : List Nat :=
  if cs.isEmpty then [] else (Text.parts (· == separator) cs).map number

def words (lines : List String) : List (List Char) := lines.flatMap fun l => Text.parts (· == ' ') l.toList

/-- A run of code points, and what is said about it. -/
structure Run (α : Type) where
  first : Nat
  last : Nat
  entry : α
  deriving DecidableEq, Repr

/-- The run that a word stands for. Without a dash it is a single code point. -/
def Run.ofWord {α : Type} (entry : List Char → α) (w : List Char) : Run α :=
  let (range, said) := Text.cutAt ':' w
  let (first, last) := Text.cutAt '-' range
  ⟨number first, number (last.getD first), entry (said.getD [])⟩

/-- Runs in ascending order. -/
abbrev Table (α : Type) := Array (Run α)

namespace Table

def ofLines {α : Type} (entry : List Char → α) (lines : List String) : Table α :=
  ((words lines).map (Run.ofWord entry)).toArray

/-- The run that holds `n`, among those from position `low` on and before `high`. -/
def search? {α : Type} (t : Table α) (n low high : Nat) : Option (Run α) :=
  if low < high then
    match t[(low + high) / 2]? with
    | none => none
    | some r =>
      if n < r.first then search? t n low ((low + high) / 2)
      else if r.last < n then search? t n ((low + high) / 2 + 1) high
      else some r
  else none
termination_by high - low
decreasing_by all_goals omega

def run? {α : Type} (t : Table α) (c : Char) : Option (Run α) := t.search? c.toNat 0 t.size

/-- What is said about a character, if anything is. -/
def entry? {α : Type} (t : Table α) (c : Char) : Option α := (t.run? c).map Run.entry

end Table

/-- A set of characters is a table that says nothing more. -/
abbrev CharSet := Table Unit

namespace CharSet

def ofLines (lines : List String) : CharSet := Table.ofLines (fun _ => ()) lines

def contains (s : CharSet) (c : Char) : Bool := (s.run? c).isSome

end CharSet
end FlowCluster.Unicode
