import FlowCluster.Text.Utf8

/-! # Text for a screen, shown elsewhere

What is written for a screen marks stretches of it by control sequences. Where there is no screen the sequences are
left out, and with them those that came in with a quoted text. A sequence begins with an escape character and ends
where its form says, or at the next mark. Of other control characters only white space is kept. White space within a
sequence interrupts it: characters are kept again up to the next one that never is. -/

namespace FlowCluster.Text.Terminal

/-- How far a control sequence has come. `ground` is outside of any. A `code` has numbers and ends with a letter; a
`header` has the same form and leads into a `body`, which like a `command` is of any length. -/
inductive Stage
  | ground
  | escape
  | escapeMore
  | code
  | header
  | headerNumber
  | headerMore
  | body
  | command
  deriving DecidableEq, Repr

namespace Stage

/-- The first character after the escape character decides on the form of a sequence. -/
def afterEscape (c : Char) : Stage :=
  if c = '[' then .code
  else if c = ']' then .command
  else if c = 'P' then .header
  else if c = 'X' ∨ c = '^' ∨ c = '_' then .body
  else if 0x20 ≤ c.toNat ∧ c.toNat ≤ 0x2F then .escapeMore
  else if 0x30 ≤ c.toNat ∧ c.toNat ≤ 0x7E then .ground
  else .escape

/-- The stage after one more visible character of a header. -/
def afterHeader (s : Stage) (c : Char) : Stage :=
  if c.toNat ≤ 0x2F then .headerMore
  else if 0x40 ≤ c.toNat then .body
  else if s = .headerMore ∨ (s = .headerNumber ∧ 0x3C ≤ c.toNat) then .body
  else .headerNumber

/-- Whether a character stands for the end of a body: one of its bytes does. -/
def endsBody (c : Char) : Bool := (Utf8.encodeChar c).contains 0x9C

/-- Whether a character is visible, or a space, and in ASCII. -/
def isVisible (c : Char) : Bool := 0x20 ≤ c.toNat && c.toNat ≤ 0x7E

/-- The stage after one more character. Two characters cancel every sequence. -/
def next (s : Stage) (c : Char) : Stage :=
  if c.toNat = 0x1B then .escape
  else if c.toNat = 0x18 ∨ c.toNat = 0x1A then .ground
  else
    match s with
    | .ground => .ground
    | .escape => afterEscape c
    | .escapeMore => if 0x30 ≤ c.toNat ∧ c.toNat ≤ 0x7E then .ground else .escapeMore
    | .code => if 0x40 ≤ c.toNat ∧ c.toNat ≤ 0x7E then .ground else .code
    | .header => if isVisible c then afterHeader .header c else .header
    | .headerNumber => if isVisible c then afterHeader .headerNumber c else .headerNumber
    | .headerMore => if isVisible c then afterHeader .headerMore c else .headerMore
    | .body => if endsBody c then .ground else .body
    | .command => if c.toNat = 7 then .ground else .command

/-- White space among the control characters. -/
def isSpacing (c : Char) : Bool := c == '\t' || c == '\n' || c == '\r' || c.toNat == 0x0C

/-- Whether a character is kept at a stage. -/
def keeps (s : Stage) (c : Char) : Bool :=
  match s with
  | .ground => isVisible c || 0x80 ≤ c.toNat || isSpacing c
  | .escape | .escapeMore | .code => isSpacing c
  | _ => false

end Stage

/-- The point that the reading of a text has reached: the stage of its sequence, and whether characters are being kept
all the same. -/
structure Point where
  stage : Stage
  keeping : Bool
  deriving DecidableEq, Repr

namespace Point

def start : Point := ⟨.ground, false⟩

/-- Whether a character is kept, and the point after it. -/
def step (p : Point) (c : Char) : Bool × Point :=
  let after := if 0x80 ≤ c.toNat then .ground else p.stage
  if p.keeping ∧ Stage.ground.keeps c then (true, ⟨after, true⟩)
  else if p.stage.keeps c then (true, ⟨after, true⟩)
  else (false, ⟨p.stage.next c, false⟩)

/-- What is kept of a text, and the point after it. -/
def read (p : Point) : List Char → List Char × Point
  | [] => ([], p)
  | c :: r =>
    let (kept, q) := p.step c
    let (cs, last) := q.read r
    (if kept then c :: cs else cs, last)

end Point

/-- A stretch of a text, which may be marked. -/
inductive Span
  | plain (text : String)
  | marked (text : String)
  deriving DecidableEq, Repr

/-- What is kept of a text from a point on. A mark begins and ends outside of sequences. -/
def keptFrom (p : Point) : List Span → List Char
  | [] => []
  | .plain s :: r =>
    let (cs, q) := p.read s.toList
    cs ++ keptFrom q r
  | .marked s :: r => (Point.start.read s.toList).1 ++ keptFrom .start r

/-- A text as it is shown where there is no screen. -/
def shown (t : List Span) : String := String.ofList (keptFrom .start t)

end FlowCluster.Text.Terminal
