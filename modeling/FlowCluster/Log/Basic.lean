import FlowCluster.Event
import FlowCluster.Json.Written
import FlowCluster.Log.Pattern
import FlowCluster.Settings.Basic
import FlowCluster.Text.Basic
import FlowCluster.Text.Utf8

/-! # Logs

Which events a log shows, and how it writes them. -/

/-! ## Directives of a log filter

A directive limits the events of some origins, and of these perhaps only such as have a field of some name. A directive
that asks for a span or for the value of a field has no effect, since nothing here opens a span, but it has to be well
formed. -/

namespace FlowCluster.Log

/-- How much a level lets through. -/
def rank : Level → Nat
  | .error => 1
  | .warn => 2
  | .info => 3
  | .debug => 4
  | .trace => 5

/-- The limits by rank. A limit that is absent lets nothing through. -/
def limits : List (Option Level) := [none, some .error, some .warn, some .info, some .debug, some .trace]

/-- The names of the limits, in the same order. -/
def limitNames : List String := ["off", "error", "warn", "info", "debug", "trace"]

/-- A limit by its rank or by its name, whatever its case. -/
def limit? (cs : List Char) : Option (Option Level) :=
  match Text.Count.readChars cs with
  | .ok n => limits[n]?
  | .error _ => (limitNames.zip limits).lookup (String.ofList (cs.map Char.toLower))

/-- A limit on events: those whose origin begins with `target`, and which have the field if one is named. -/
structure Rule where
  target : List Char
  field : Option (List Char)
  limit : Option Level
  deriving DecidableEq, Repr

namespace Rule

/-- Whether a rule is about an event. The message is a field like the others. -/
def appliesTo (r : Rule) (e : Event) : Bool :=
  r.target.isPrefixOf e.origin.toList &&
    r.field.all fun f => ("message" :: e.fields.map Prod.fst).contains (String.ofList f)

/-- Whether a field makes a rule less specific than another one does. -/
def fieldLess : Option (List Char) → Option (List Char) → Bool
  | none, some _ => true
  | some f, some g => f < g
  | _, none => false

/-- Whether a rule is less specific than another. -/
def isLess (r s : Rule) : Bool :=
  r.target.length < s.target.length || (r.target.length == s.target.length && fieldLess r.field s.field)

def lets (r : Rule) (l : Level) : Bool := r.limit.any fun m => rank l ≤ rank m

end Rule

inductive Directive
  | events (rule : Rule)
  | spans
  deriving DecidableEq, Repr

namespace Directive

/-- A place in a directive. What is looked at is the text without white space at its ends, but its parts are cut out of
the whole text at the same distances from the beginning; so white space at the beginning shifts them. -/
structure Place where
  ahead : List Char
  text : List Char
  deriving DecidableEq, Repr

/-- Cuts a text after `n` bytes. -/
def cutBytes (n : Nat) : List Char → List Char × List Char
  | [] => ([], [])
  | c :: r =>
    if n = 0 then ([], c :: r)
    else
      let (head, tail) := cutBytes (n - (Text.Utf8.encodeChar c).length) r
      (c :: head, tail)

namespace Place

/-- The place at the beginning of a text. -/
def start (cs : List Char) : Place := ⟨Text.Blank.trimChars cs, cs⟩

/-- The part before the first character that `ends` it, and the place there. -/
def part (p : Place) (ends : Char → Bool) : List Char × Place :=
  let passed := p.ahead.takeWhile (!ends ·)
  let (head, tail) := cutBytes (passed.flatMap Text.Utf8.encodeChar).length p.text
  (head, ⟨p.ahead.drop passed.length, tail⟩)

/-- The place after the next character, which is in ASCII. -/
def next (p : Place) : Place := ⟨p.ahead.drop 1, (cutBytes 1 p.text).2⟩

def char? (p : Place) : Option Char := p.ahead.head?

/-- The limit that the rest of a text gives. None lets everything through. -/
def limit? (p : Place) : Option (Option Level) :=
  if p.text.isEmpty then some (some .trace) else Log.limit? p.text

end Place

/-- Whether a directive can begin with a character. -/
def canBegin (c : Char) : Bool := c == '-' || c == ':' || c == '_' || Unicode.Alphanumeric.isAlphanumeric c

/-- The directive of a target and a field, with the limit that stands at `p`. With `always` it is about spans. -/
def limited (always : Bool) (target : List Char) (field : Option (List Char)) (p : Place) : Option Directive := do
  let limit ←
    match p.char? with
    | none => some (some .trace)
    | some '=' => p.next.limit?
    | some _ => none
  return if always then .spans else .events ⟨target, field, limit⟩

/-- Reads a field, a closing brace and the closing bracket. A value stands between the first two equals signs. -/
def withField? (always : Bool) (target : List Char) (p : Place) : Option Directive :=
  let (field, q) := p.part (· == '\x7d')
  let (name, value) := Text.cutAt '=' field
  let valid := value.all fun v => Pattern.isValid (Text.cutAt '=' v).1
  if !field.isEmpty ∧ valid ∧ q.char? = some '\x7d' ∧ q.next.char? = some ']' then
    limited (always || value.isSome) target (some name) q.next.next
  else none

/-- Reads what follows an opening bracket: the name of a span, and perhaps a field. A field alone needs no span. -/
def withSpan? (target : List Char) (p : Place) : Option Directive :=
  let (name, q) := p.part fun c => c == ']' || c == '\x7b'
  match q.char? with
  | some ']' => limited true target none q.next
  | some '\x7b' => withField? (!name.isEmpty) target q.next
  | _ => none

/-- Reads a directive. A single word is a limit for everything if it is one, and else a target. -/
def read? (cs : List Char) : Option Directive :=
  let p := Place.start cs
  match p.char? with
  | none => none
  | some '[' => withSpan? [] p.next
  | some c =>
    if canBegin c then
      let (target, q) := p.part fun c => c == '=' || c == '['
      match q.char? with
      | some '[' => withSpan? target q.next
      | some _ => limited false target none q
      | none =>
        match Log.limit? cs with
        | some l => some (.events ⟨[], none, l⟩)
        | none => some (.events ⟨cs, none, some .trace⟩)
    else none

end Directive

/-! ## Log filters

Which events a log shows. A filter is a list of directives; the most specific rule for an event decides, and of equally
specific ones the last. -/

/-- The directives that decide what a log shows. -/
abbrev Filter := List Directive

namespace Filter

/-- The filter that shows everything up to a level. -/
def upTo (l : Level) : Filter := [.events ⟨[], none, some l⟩]

/-- Reads a filter: directives between commas. Without any directive only errors are shown. -/
def read? (s : String) : Option Filter :=
  let items := (Text.parts (· == ',') s.toList).filter fun i => !i.isEmpty
  if items.isEmpty then some (upTo .error) else items.mapM Directive.read?

/-- The filter of the environment, if it has a valid one, and else the given one. -/
def ofEnvironment (e : Environment) (otherwise : Filter) : Filter :=
  ((e.text? "RUST_LOG").bind read?).getD otherwise

/-- The rule that decides on an event, if one of the directives does. -/
def rule? (f : Filter) (e : Event) : Option Rule :=
  f.foldl (fun best d =>
    match d with
    | .spans => best
    | .events r => if r.appliesTo e && !best.any r.isLess then some r else best) none

def shows (f : Filter) (e : Event) : Bool := (f.rule? e).any fun r => r.lets e.level

end Filter

/-! ## Log lines

An event as a line of a log: as a text, or as a document of its own. The message comes first in both, then the
fields in their order. -/

def levelName : Level → String
  | .error => "ERROR"
  | .warn => "WARN"
  | .info => "INFO"
  | .debug => "DEBUG"
  | .trace => "TRACE"

/-- An event as a line of text. Levels take five columns. -/
def textLine (e : Event) : String :=
  let level := levelName e.level
  String.ofList (List.replicate (5 - level.length) ' ') ++ level ++ " " ++ e.message ++
    String.join (e.fields.map fun (n, v) => " " ++ n ++ "=" ++ v.toText) ++ "\n"

def valueChars : FieldValue → List Char
  | .text s => Json.stringChars s
  | .number n => Nat.toDigits 10 n

def memberChars (name : String) (value : List Char) : List Char := Json.stringChars name ++ ':' :: value

/-- An event as a line that is a document. -/
def documentLine (e : Event) : String :=
  let members := (("message", FieldValue.text e.message) :: e.fields).map fun (n, v) =>
    memberChars n (valueChars v)
  let fields := '\x7b' :: ([','].intercalate members ++ ['\x7d'])
  String.ofList ('\x7b' :: (memberChars "level" (Json.stringChars (levelName e.level)) ++ ',' ::
    (memberChars "fields" fields ++ ['\x7d', '\n'])))

end FlowCluster.Log
