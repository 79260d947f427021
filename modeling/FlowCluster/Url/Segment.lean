import FlowCluster.Text.Basic
import FlowCluster.Url.Percent

/-! # Paths and the breaks in them

The path of an address as the list of its segments. -/

/-! ## Breaks in an address

An address may be broken anywhere by tabs and line ends, which are no part of it. They are kept until its parts are
told apart, because a break within a path can matter. -/

namespace FlowCluster.Url

/-- Tabs and line ends. -/
def isBreak (c : Char) : Bool := c == '\t' || c == '\n' || c == '\r'

def joined (cs : List Char) : List Char := cs.filter (!isBreak ·)

/-- A text after `n` characters that are no breaks, and after the breaks that follow these. -/
def after (n : Nat) : List Char → List Char
  | [] => []
  | c :: r =>
    if isBreak c then after n r
    else
      match n with
      | 0 => c :: r
      | n + 1 => after n r

/-- A text without breaks stays as it is. -/
theorem joined_eq_self {cs : List Char} (h : ∀ c ∈ cs, isBreak c = false) : joined cs = cs :=
  List.filter_eq_self.mpr fun c hc => by simp [h c hc]

/-- In a text without breaks every character counts. -/
theorem after_eq_drop {n : Nat} {cs : List Char} (h : ∀ c ∈ cs, isBreak c = false) : after n cs = cs.drop n := by
  induction cs generalizing n with
  | nil => simp [after]
  | cons c r ih =>
    have hr := fun n => ih (n := n) fun d hd => h d (List.mem_cons_of_mem c hd)
    cases n <;> simp [after, h c, hr]

/-! ## Segments of a path

A path is cut at its slashes, and its segments are taken one after the other. One dot stays where it is and two dots
go back by one segment, also when the dots are written as percent signs and digits; but nothing goes back over the
letter of a drive. In the address of a file the letter of a drive may come first, and then the path belongs to no
host. -/

/-- Visible ASCII characters. -/
def isVisible (c : Char) : Bool := 0x20 < c.toNat && c.toNat < 0x7F

/-- Characters that stay as they are in a segment of a path. -/
def staysInPath (c : Char) : Bool := isVisible c && !"\"#<>?\x60\x7b\x7d".toList.contains c

/-- How many dots a segment is made of, if of nothing else. -/
def dots? : List Char → Option Nat
  | [] => some 0
  | '.' :: r => (dots? r).map (· + 1)
  | '%' :: '2' :: c :: r => if c = 'e' ∨ c = 'E' then (dots? r).map (· + 1) else none
  | _ => none

namespace Drive

/-- Signs that follow the letter of a drive. -/
def isSign (c : Char) : Bool := c == ':' || c == '|'

/-- The letter of a drive, if a text is one and its sign. -/
def letter? : List Char → Option Char
  | [l, s] => if l.isAlpha ∧ isSign s then some l else none
  | _ => none

/-- Whether a segment is one that nothing goes back over: the letter of a drive and its sign, before a backslash or the
end. -/
def holds : List Char → Bool
  | l :: s :: r => l.isAlpha && isSign s && (r.isEmpty || r.head? == some '\\')
  | _ => false

/-- Whether the first colon of a text stands before a break. -/
def isBroken (cs : List Char) : Bool := (((cs.dropWhile (· != ':')).drop 1).head?.map isBreak).getD false

/-- What a break after the letter of a drive and a colon cuts off. -/
def cut? (cs : List Char) : Option (Char × List Char) :=
  match joined cs with
  | l :: ':' :: c :: r => if l.isAlpha ∧ isBroken cs then some (l, c :: r) else none
  | _ => none

end Drive

/-- The way along a path: the segments passed, the last one in front, and whether the letter of a drive was the first
of them. -/
structure Trail where
  passed : List (List Char)
  onDrive : Bool
  deriving DecidableEq, Repr

namespace Trail

def root : Trail := ⟨[], false⟩

/-- The segments passed, from the root on. -/
def segments (t : Trail) : List (List Char) := t.passed.reverse

def enter (t : Trail) (s : List Char) : Trail := { t with passed := s :: t.passed }

/-- One segment back, if that is not the letter of a drive. -/
def back (t : Trail) : Trail :=
  match t.passed with
  | s :: r => if Drive.holds s then t else { t with passed := r }
  | [] => t

/-- One segment further, or more. At the root of a file system the letter of a drive is written with a colon, and what
a break cuts off from it is a segment of its own. -/
def enterWritten (ofFile : Bool) (t : Trail) (s : List Char) : Trail :=
  let plain := t.enter (Percent.escape staysInPath (joined s))
  if ofFile ∧ t.passed.isEmpty then
    match Drive.letter? (joined s), Drive.cut? s with
    | some l, _ => ⟨[[l, ':']], true⟩
    | none, some (l, rest) => ⟨[Percent.escape staysInPath rest, [l, ':']], t.onDrive⟩
    | none, none => plain
  else plain

/-- Drives matter in the address of a file alone. -/
@[simp] theorem enterWritten_false (t : Trail) (s : List Char) :
    t.enterWritten false s = t.enter (Percent.escape staysInPath (joined s)) := by
  simp [enterWritten]

/-- The way along segments as they are written. A last segment of dots leaves an empty one. -/
def follow (ofFile : Bool) (t : Trail) : List (List Char) → Trail
  | [] => t
  | s :: rest =>
    let reached :=
      match dots? (joined s) with
      | some 2 => if rest.isEmpty then t.back.enter [] else t.back
      | some 1 => if rest.isEmpty then t.enter [] else t
      | _ => t.enterWritten ofFile s
    follow ofFile reached rest

/-- Without segments of dots every segment is passed. -/
theorem passed_follow_false (t : Trail) (ss : List (List Char))
    (h : ∀ s ∈ ss, dots? (joined s) ≠ some 1 ∧ dots? (joined s) ≠ some 2) :
    (t.follow false ss).passed = (ss.map fun s => Percent.escape staysInPath (joined s)).reverse ++ t.passed := by
  induction ss generalizing t with
  | nil => rfl
  | cons s rest ih =>
    obtain ⟨hone, htwo⟩ := h s List.mem_cons_self
    have hrest := ih (t.enterWritten false s) fun r hr => h r (List.mem_cons_of_mem s hr)
    rw [follow]
    split
    · contradiction
    · contradiction
    · rw [hrest]
      simp [enter]

end Trail

/-- The slashes of a scheme; in a special one they lean either way. -/
def isSlash (special : Bool) (c : Char) : Bool := c == '/' || (special && c == '\\')

/-- A path without the slash in front of its first segment. -/
def withoutSlash (special : Bool) (cs : List Char) : List Char :=
  if ((after 0 cs).head?.map (isSlash special)).getD false then after 1 cs else cs

/-- The way along a path, which begins with its first segment. -/
def trail (ofFile special : Bool) (cs : List Char) : Trail :=
  Trail.root.follow ofFile (Text.parts (isSlash special) cs)

/-- The segments of a path that is not the one of a file. -/
def segments (special : Bool) (cs : List Char) : List (List Char) :=
  (trail false special (withoutSlash special cs)).segments

end FlowCluster.Url
