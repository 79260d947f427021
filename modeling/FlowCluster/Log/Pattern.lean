import FlowCluster.Text.Basic
import FlowCluster.Unicode.Alphanumeric

/-! # Patterns

A filter may ask for the value of a field, by a number or by a pattern. Nothing here is ever held against one, but a
filter with a pattern that is not well formed is no filter. Three flags bear on that. While characters are taken for
all of Unicode no class of them has a name, no word has a boundary and no case can be ignored; while they are taken
for bytes a pattern must not match a byte past ASCII. A pattern has no closing brace, because there the field ends, so
that an opening one repeats nothing and has no place outside of a class. -/

namespace FlowCluster.Log.Pattern

/-- The flags that decide what is well formed: whether case is ignored, whether characters are taken for all of
Unicode, and whether white space and comments are skipped. -/
structure Mode where
  folded : Bool
  unicode : Bool
  spaced : Bool
  deriving DecidableEq, Repr

namespace Mode

/-- The flags at the start of a pattern. -/
def plain : Mode := ⟨false, true, false⟩

/-- The letters of the flags, and the sign after which flags are cleared. -/
def items : List Char := ['i', 'm', 's', 'U', 'u', 'R', 'x', '-']

/-- The flags after some items. Every item stands once, and the sign does not come last. -/
def change? (m : Mode) (given : List Char) : Option Mode :=
  if given.all items.contains ∧ given.Nodup ∧ given.getLast? ≠ some '-' then
    let (set, cleared) := (given.takeWhile (· != '-'), given.dropWhile (· != '-'))
    let flag (c : Char) (old : Bool) : Bool := set.contains c || (old && !cleared.contains c)
    some ⟨flag 'i' m.folded, flag 'u' m.unicode, flag 'x' m.spaced⟩
  else none

/-- Characters cannot be compared without regard to their case when they are taken for all of Unicode. -/
def isBlind (m : Mode) : Bool := m.folded && m.unicode

end Mode

/-- What a backslash makes of the characters after it. -/
inductive Atom
  | character (code : Nat)
  | set
  | assertion
  deriving DecidableEq, Repr

/-- A character by its code of `n` digits. A byte past ASCII is none. -/
def coded? (m : Mode) (n : Nat) (cs : List Char) : Option (Atom × Nat) :=
  match if (cs.take n).length = n then Text.Hex.number? (cs.take n) else none with
  | some v =>
    if v.isValidChar ∧ (m.unicode ∨ n ≠ 2 ∨ v < 0x80) then some (.character v, n + 1) else none
  | none => none

/-- Letters for control characters. -/
def controls : List (Char × Nat) := [('a', 7), ('f', 12), ('t', 9), ('n', 10), ('r', 13), ('v', 11)]

/-- Reads what follows a backslash, and tells how many characters that takes. -/
def escape? (m : Mode) : List Char → Option (Atom × Nat)
  | [] => none
  | c :: r =>
    if c = 'x' then coded? m 2 r
    else if c = 'u' then coded? m 4 r
    else if c = 'U' then coded? m 8 r
    else if "dsw".toList.contains c then if m.unicode then none else some (.set, 1)
    else if "bB<>".toList.contains c then if m.unicode then none else some (.assertion, 1)
    else if c = 'A' ∨ c = 'z' then some (.assertion, 1)
    else
      match controls.lookup c with
      | some v => some (.character v, 1)
      | none => if c.toNat < 0x80 ∧ !c.isAlphanum then some (.character c.toNat, 1) else none

/-- How many blanks are skipped in front of a text. -/
def gap (m : Mode) (cs : List Char) : Nat := if m.spaced then (cs.takeWhile Text.Blank.isBlank).length else 0

namespace Bracket

/-- The names of classes within a class. -/
def names : List String :=
  ["alnum", "alpha", "ascii", "blank", "cntrl", "digit", "graph", "lower", "print", "punct", "space", "upper",
    "word", "xdigit"]

/-- Reads a class by its name after an opening bracket: whether it is negated, and how many characters that takes. -/
def named? : List Char → Option (Bool × Nat)
  | ':' :: r =>
    let negated := r.head? = some '^'
    let name := (if negated then r.drop 1 else r).takeWhile (· != ':')
    let length := (if negated then 2 else 1) + name.length
    if ((':' :: r).drop length).take 2 = [':', ']'] ∧ names.contains (String.ofList name) then
      some (negated, length + 2)
    else none
  | _ => none

/-- How a class opens after its bracket: how many members it has at once, and how many characters that takes. There may
be a negation, and then dashes or a closing bracket in the first place. -/
def opening? (m : Mode) (cs : List Char) : Option (Nat × Nat) :=
  let start := gap m cs
  let negated := (cs.drop start).head? = some '^'
  let before := if negated then start + 1 else start
  let dashes := (cs.drop before).takeWhile fun c => c == '-' || (m.spaced && Text.Blank.isBlank c)
  let taken := before + dashes.length
  let closing := dashes.count '-' = 0 ∧ (cs.drop taken).head? = some ']'
  if m.isBlind ∨ (negated ∧ !m.unicode) then none
  else if closing then some (1, taken + 1)
  else some (dashes.count '-', taken)

/-- One member of a class, and how many characters it takes. -/
def member? (m : Mode) : List Char → Option (Atom × Nat)
  | [] => none
  | c :: r =>
    let atom := if c = '\\' then (escape? m r).map fun (a, n) => (a, n + 1) else some (Atom.character c.toNat, 1)
    match atom with
    | some (.character v, n) => if m.unicode ∨ v < 0x80 then some (.character v, n) else none
    | some (.set, n) => some (.set, n)
    | _ => none

/-- How many characters a member takes, or a range of characters. A dash before the closing bracket or before another
dash makes no range. -/
def range? (m : Mode) (cs : List Char) : Option Nat :=
  match member? m cs with
  | none => none
  | some (a, n) =>
    let first := n + gap m (cs.drop n)
    match cs.drop first with
    | '-' :: r =>
      let second := r.drop (gap m r)
      if second.head? = some ']' ∨ second.head? = some '-' then some n
      else
        match a, member? m second with
        | .character v, some (.character w, k) => if v ≤ w then some (first + 1 + gap m r + k) else none
        | _, _ => none
    | _ => some n

end Bracket

/-! A pattern is a tree, of which only the depth is of interest. -/

/-- What has been read of a class: the depth of what stands before the last operator, if there is one, the number of
members after it and the depth of the deepest of them. -/
structure Members where
  left : Option Nat
  count : Nat
  deepest : Nat
  deriving DecidableEq, Repr

namespace Members

/-- A class of some members without depth. -/
def start (count : Nat) : Members := ⟨none, count, 0⟩

def add (m : Members) (depth : Nat) : Members := { m with count := m.count + 1, deepest := max m.deepest depth }

/-- The depth of what has been read. Several members make one level, and so does an operator. -/
def depth (m : Members) : Nat :=
  let right := if m.count ≤ 1 then m.deepest else m.deepest + 1
  match m.left with
  | some d => max d right + 1
  | none => right

def operator (m : Members) : Members := ⟨some m.depth, 0, 0⟩

end Members

/-- What has been read of a group: the depth of the deepest alternative before the last bar, if there is one, the number
of items after it, the depth of the deepest of those before the last item and the depth of that. What comes last can be
repeated or cannot. -/
structure Branch where
  left : Option Nat
  count : Nat
  deepest : Nat
  last : Nat
  repeatable : Bool
  deriving DecidableEq, Repr

namespace Branch

def start : Branch := ⟨none, 0, 0, 0, false⟩

def add (b : Branch) (depth : Nat) (repeatable : Bool) : Branch :=
  { b with count := b.count + 1, deepest := max b.deepest b.last, last := depth, repeatable }

/-- The last item repeated, which makes one level. -/
def again (b : Branch) : Branch := { b with last := b.last + 1 }

/-- The depth of the items after the last bar. Several items make one level. -/
def itemsDepth (b : Branch) : Nat := if b.count ≤ 1 then b.last else max b.deepest b.last + 1

/-- The depth of what has been read. Alternatives make one level. -/
def depth (b : Branch) : Nat :=
  match b.left with
  | some d => max d b.itemsDepth + 1
  | none => b.itemsDepth

def bar (b : Branch) : Branch := { start with left := some (max (b.left.getD 0) b.itemsDepth) }

end Branch

/-- A pattern is not deeper than this. -/
def deepest : Nat := 250

/-- How far a pattern has been read: the flags, what there is of the innermost group, flags and groups outside of it, the
open classes, the innermost first, and the names of groups. -/
structure Progress where
  mode : Mode
  branch : Branch
  outer : List (Mode × Branch)
  classes : List Members
  names : List (List Char)
  deriving DecidableEq, Repr

namespace Progress

def start : Progress := ⟨.plain, .start, [], [], []⟩

/-- Whether a pattern may end here. -/
def isEnd (p : Progress) : Bool := p.outer.isEmpty && p.classes.isEmpty && p.branch.depth ≤ deepest

/-- After an item without depth, which has taken `n` more characters. -/
def took (p : Progress) (n : Nat) : Option (Progress × Nat) := some ({ p with branch := p.branch.add 0 true }, n)

def inGroup (p : Progress) (m : Mode) : Progress :=
  { p with mode := m, branch := .start, outer := (p.mode, p.branch) :: p.outer }

/-- After the closing parenthesis of a group, outside of which there is `b`. A group makes one level. -/
def afterGroup (p : Progress) (m : Mode) (b : Branch) (outer : List (Mode × Branch)) : Progress :=
  { p with mode := m, branch := b.add (p.branch.depth + 1) true, outer }

/-- Whether a text can name a group. -/
def isName : List Char → Bool
  | [] => false
  | c :: r =>
    (c == '_' || Unicode.Alphanumeric.isAlphabetic c) &&
      r.all fun d => "_.[]".toList.contains d || Unicode.Alphanumeric.isAlphanumeric d

/-- After the name of a group, in front of which `n` characters have been taken. -/
def nameGroup (p : Progress) (n : Nat) (cs : List Char) : Option (Progress × Nat) :=
  let name := cs.takeWhile (· != '>')
  if name.length < cs.length ∧ isName name ∧ !p.names.contains name then
    some ({ p.inGroup p.mode with names := name :: p.names }, n + name.length + 1)
  else none

/-- After the flags of a group, or after flags for the rest of a group, in front of which `n` characters have been
taken. -/
def changeFlags (p : Progress) (n : Nat) (cs : List Char) : Option (Progress × Nat) :=
  let items := cs.takeWhile fun c => c != ':' && c != ')'
  let taken := n + items.length + 1
  match p.mode.change? items, (cs.drop items.length).head? with
  | some m, some ':' => some (p.inGroup m, taken)
  | some m, some _ =>
    if items.isEmpty then none else some ({ p with mode := m, branch := p.branch.add 0 false }, taken)
  | _, _ => none

def openGroup (p : Progress) (r : List Char) : Option (Progress × Nat) :=
  let n := gap p.mode r
  match r.drop n with
  | '?' :: 'P' :: '<' :: r => p.nameGroup (n + 3) r
  | '?' :: '<' :: r => p.nameGroup (n + 2) r
  | '?' :: r => p.changeFlags (n + 1) r
  | _ => some (p.inGroup p.mode, 0)

def openClass (p : Progress) (r : List Char) : Option (Progress × Nat) :=
  (Bracket.opening? p.mode r).map fun (members, n) => ({ p with classes := .start members :: p.classes }, n)

/-- After a closing bracket, where `m` has been read in it. A class makes one level. -/
def closeClass (p : Progress) (m : Members) (outer : List Members) : Progress :=
  match outer with
  | [] => { p with branch := p.branch.add (m.depth + 1) true, classes := [] }
  | o :: rest => { p with classes := o.add (m.depth + 1) :: rest }

/-- After one more character of a class, where `m` has been read of it. -/
def inClass (p : Progress) (m : Members) (outer : List Members) (c : Char) (r : List Char) :
    Option (Progress × Nat) :=
  let withMember : Progress := { p with classes := m.add 0 :: outer }
  if c = '[' then
    match Bracket.named? r with
    | some (negated, n) => if negated ∧ !p.mode.unicode then none else some (withMember, n)
    | none => p.openClass r
  else if c = ']' then some (p.closeClass m outer, 0)
  else if (c = '&' ∨ c = '-' ∨ c = '~') ∧ r.head? = some c then
    some ({ p with classes := m.operator :: outer }, 1)
  else (Bracket.range? p.mode (c :: r)).map fun n => (withMember, n - 1)

def afterEscape (p : Progress) (r : List Char) : Option (Progress × Nat) :=
  match escape? p.mode r with
  | some (.character _, n) => if p.mode.isBlind then none else p.took n
  | some (_, n) => p.took n
  | none => none

/-- After one more character outside of classes, where `r` follows. Some characters take others with them. -/
def inPattern (p : Progress) (c : Char) (r : List Char) : Option (Progress × Nat) :=
  match c with
  | '(' => p.openGroup r
  | ')' =>
    match p.outer with
    | [] => none
    | (m, b) :: outer => some (p.afterGroup m b outer, 0)
  | '|' => some ({ p with branch := p.branch.bar }, 0)
  | '[' => p.openClass r
  | '?' | '*' | '+' =>
    if p.branch.repeatable then
      some ({ p with branch := p.branch.again }, if r.head? = some '?' then 1 else 0)
    else none
  | '\x7b' => none
  | '\\' => p.afterEscape r
  | '.' => if p.mode.unicode then p.took 0 else none
  | '^' | '$' => p.took 0
  | _ => if p.mode.isBlind then none else p.took 0

/-- After one more character, where `r` follows. -/
def next (p : Progress) (c : Char) (r : List Char) : Option (Progress × Nat) :=
  if p.mode.spaced ∧ Text.Blank.isBlank c then some (p, 0)
  else if p.mode.spaced ∧ c = '#' then some (p, (r.takeWhile (· != '\n')).length)
  else
    match p.classes with
    | m :: outer => p.inClass m outer c r
    | [] => p.inPattern c r

/-- Whether the rest of a pattern is well formed. -/
def accepts (p : Progress) : List Char → Bool
  | [] => p.isEnd
  | c :: r =>
    match p.next c r with
    | some (q, n) => q.accepts (r.drop n)
    | none => false
termination_by cs => cs.length
decreasing_by rw [List.length_drop, List.length_cons]; omega

end Progress

/-- Whether a text is a number without a sign: a special one by its name, or a decimal fraction with or without an
exponent. -/
def isUnsigned (cs : List Char) : Bool :=
  let whole := cs.takeWhile Char.isDigit
  let (fraction, rest) :=
    match cs.dropWhile Char.isDigit with
    | '.' :: r => (r.takeWhile Char.isDigit, r.dropWhile Char.isDigit)
    | r => ([], r)
  let exponent :=
    match rest with
    | e :: '+' :: r | e :: '-' :: r | e :: r => e.toLower == 'e' && !r.isEmpty && r.all Char.isDigit
    | [] => true
  ["inf", "infinity", "nan"].contains (String.ofList (cs.map Char.toLower)) ||
    (!(whole.isEmpty && fraction.isEmpty) && exponent)

/-- Whether a filter can ask for a value. Of the numbers all but those with a plus sign are patterns too. -/
def isValid : List Char → Bool
  | '+' :: r => isUnsigned r
  | cs => Progress.start.accepts cs

end FlowCluster.Log.Pattern
