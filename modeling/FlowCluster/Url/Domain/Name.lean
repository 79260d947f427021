import FlowCluster.Text.Utf8
import FlowCluster.Unicode.Composition
import FlowCluster.Unicode.Direction
import FlowCluster.Unicode.Joining
import FlowCluster.Unicode.Mark
import FlowCluster.Url.Domain.Punycode
import FlowCluster.Url.Domain.Replacement

/-! # Names of hosts and their labels

A name comes in any script and is written with ASCII characters only, label by label. -/

/-! ## Labels of a name

The labels of a name stand between its dots. A label has a text, and it is written with ASCII characters only: as its
text if that will do, and else encoded, after a mark that tells so. A label that comes encoded must be the one that its
text would be written as. -/

namespace FlowCluster.Url.Domain

/-- Characters that end a host or belong to other parts of an address. -/
def isReserved (c : Char) : Bool :=
  c.toNat = 0 || "\t\n\r #/:<>?@[\\]^|".toList.contains c

/-- Characters that no name of a special scheme may hold. -/
def isForbidden (c : Char) : Bool := isReserved c || c.toNat ≤ 0x1F || c == '%' || c.toNat == 0x7F

def isAscii (c : Char) : Bool := c.toNat < 0x80

/-- The mark of an encoded label. -/
def encodedMark : List Char := ['x', 'n', '-', '-']

/-- A label, by its text and as it is written. -/
structure Label where
  text : List Char
  written : List Char
  deriving DecidableEq, Repr

namespace Label

/-- Encoded labels are no longer than this after their mark. -/
def longestCode : Nat := 2000

/-- The text of a label past ASCII is no longer than this. -/
def longestText : Nat := 1000

/-- The text that an encoded label stands for. It is one that nothing would be replaced in. -/
def decoded? (code : List Char) : Option (List Char) :=
  if code.isEmpty ∨ code.getLast? = some '-' ∨ longestCode < code.length ∨ !code.all isAscii then none
  else
    match Punycode.decode? code with
    | some text =>
      if text.all kept.contains ∧ Unicode.Composition.compose text = text ∧ !encodedMark.isPrefixOf text ∧
          text.length ≤ longestText then some text
      else none
    | none => none

/-- Reads a label in which every character has been replaced. -/
def read? (cs : List Char) : Option Label :=
  if encodedMark.isPrefixOf cs then (decoded? (cs.drop encodedMark.length)).map fun text => ⟨text, cs⟩
  else if cs.all isAscii then some ⟨cs, cs⟩
  else if cs.length ≤ longestText then some ⟨cs, encodedMark ++ Punycode.encode cs⟩
  else none

/-- Whether the last of some characters, which are given in reverse, joins the letters around it. -/
def endsInVirama (before : List Char) : Bool :=
  before.head?.any fun c => Unicode.CombiningClass.combiningClass c == Unicode.CombiningClass.virama

/-- Whether the letters before a place, which are given in reverse, and those after it join there. -/
def joins (before rest : List Char) : Bool :=
  let nearest (cs : List Char) := ((cs.map Unicode.Joining.of).dropWhile (· == .transparent)).head?
  (nearest before == some .following || nearest before == some .both) &&
    (nearest rest == some .preceding || nearest rest == some .both)

/-- Whether the characters that join letters, or keep them from joining, stand only where they change something. -/
def joinersFit (before : List Char) : List Char → Bool
  | [] => true
  | c :: r =>
    (if c = '\u200C' then endsInVirama before || joins before r
      else if c = '\u200D' then endsInVirama before
      else true) && joinersFit (c :: before) r

/-- Whether a label may be part of a name. -/
def isAdmissible (l : Label) : Bool :=
  !l.text.any isForbidden && joinersFit [] l.text && !l.text.head?.any Unicode.Mark.isMark

/-- The directions of the characters of a label. -/
def directions (l : Label) : List Unicode.Direction := l.text.map Unicode.Direction.of

/-- Whether a label has something that is written from right to left. -/
def hasRight (l : Label) : Bool := l.directions.any fun d => d == .right || d == .arabicDigit

/-- Whether the direction of a label is clear: its first character gives it, nothing goes against it, and it ends in a
letter or a digit, which marks may follow. -/
def isDirected (l : Label) : Bool :=
  let ds := l.directions
  let last := (ds.reverse.dropWhile (· == .mark)).head?
  match ds with
  | [] => true
  | .right :: _ =>
    ds.all (fun d => d != .left && d != .other) &&
      (last == some .right || last == some .europeanDigit || last == some .arabicDigit) &&
      !(ds.contains .europeanDigit && ds.contains .arabicDigit)
  | .left :: _ =>
    ds.all (fun d => d == .left || d == .europeanDigit || d == .neutral || d == .mark) &&
      (last == some .left || last == some .europeanDigit)
  | _ => false

end Label

/-! ## Names of hosts

A name comes as bytes in any script and is written with ASCII characters only. Every character is replaced by the one
that stands for it in names, and the whole is composed; then each label is written by itself. If anything in a name is
written from right to left, the direction of every label must be clear. -/

/-- Whether a name in ASCII has an encoded label. -/
def hasEncoded (cs : List Char) : Bool := (Text.parts (· == '.') cs).any encodedMark.isPrefixOf

/-- Writes a name of any script. -/
def ofText? (cs : List Char) : Option (List Char) := do
  let replaced ← cs.mapM replace?
  let labels ← (Text.parts (· == '.') (Unicode.Composition.compose replaced.flatten)).mapM Label.read?
  let directed := !labels.any Label.hasRight || labels.all Label.isDirected
  if labels.all Label.isAdmissible ∧ directed then some (['.'].intercalate (labels.map Label.written)) else none

/-- Writes a name. One in ASCII stays as it is but for capital letters, unless something in it is encoded. -/
def ofBytes? (bytes : Bytes) : Option (List Char) :=
  let name := bytes.map fun b => (Char.ofNat b.toNat).toLower
  if bytes.any (· ≥ 0x80) || hasEncoded name then ofText? (Text.Utf8.lossy bytes).toList
  else if name.any isForbidden then none
  else some name

end FlowCluster.Url.Domain
