import FlowCluster.Json.Number
import FlowCluster.Text.Shown
import FlowCluster.Text.Utf8

/-! # Why a document is rejected

A *problem* says what is wrong; a *fault* adds how many bytes were still unread when it was met, which is all a
reader knows; a *rejection* turns that count into a line and a column of the whole document. -/

namespace FlowCluster.Json

/-- A value without parts. -/
inductive Scalar
  | null
  | boolean (value : Bool)
  | number (value : Number)
  | text (value : String)
  deriving DecidableEq, Repr

/-- What stands where a value of another kind is asked for. -/
inductive Found
  | scalar (value : Scalar)
  | list
  | object
  deriving DecidableEq, Repr

/-- What is wrong with a document. -/
inductive Problem
  | endInValue
  | endInList
  | endInObject
  | endInString
  | noColon
  | noListSeparator
  | noObjectSeparator
  | badWord
  | noValue
  | keyNotString
  | trailingComma
  | trailingCharacters
  | badNumber
  | numberOutOfRange
  | badEscape
  | loneSurrogate
  | halfEscape
  | controlCharacter
  | badCharacter
  | tooDeep
  | wrongType (found : Found) (expected : String)
  | repeatedField (name : String)
  deriving DecidableEq, Repr

/-- The words for what was found in place of another kind of value. -/
def Found.description : Found → String
  | .scalar .null => "null"
  | .scalar (.boolean b) => "boolean `" ++ (if b then "true" else "false") ++ "`"
  | .scalar (.number (.whole i h)) => "integer `" ++ String.ofList (Number.whole i h).chars ++ "`"
  | .scalar (.number (.real s x)) => "floating point `" ++ String.ofList (Number.real s x).chars ++ "`"
  | .scalar (.text s) => "string " ++ Text.Quoted.quote s
  | .list => "sequence"
  | .object => "map"

def Problem.message : Problem → String
  | .endInValue => "EOF while parsing a value"
  | .endInList => "EOF while parsing a list"
  | .endInObject => "EOF while parsing an object"
  | .endInString => "EOF while parsing a string"
  | .noColon => "expected `:`"
  | .noListSeparator => "expected `,` or `]`"
  | .noObjectSeparator => "expected `,` or `\x7d`"
  | .badWord => "expected ident"
  | .noValue => "expected value"
  | .keyNotString => "key must be a string"
  | .trailingComma => "trailing comma"
  | .trailingCharacters => "trailing characters"
  | .badNumber => "invalid number"
  | .numberOutOfRange => "number out of range"
  | .badEscape => "invalid escape"
  | .loneSurrogate => "lone leading surrogate in hex escape"
  | .halfEscape => "unexpected end of hex escape"
  | .controlCharacter => "control character (\\u0000-\\u001F) found while parsing a string"
  | .badCharacter => "invalid unicode code point"
  | .tooDeep => "recursion limit exceeded"
  | .wrongType found expected => "invalid type: " ++ found.description ++ ", expected " ++ expected
  | .repeatedField name => "duplicate field `" ++ name ++ "`"

/-- A problem, and how many bytes were still unread when it was met. -/
structure Fault where
  problem : Problem
  unread : Nat
  deriving DecidableEq, Repr

/-- A problem met before `rest`. -/
def Fault.before (rest : Bytes) (problem : Problem) : Fault := ⟨problem, rest.length⟩

/-- A problem with the first byte of `rest`, reported just past it. -/
def Fault.past (rest : Bytes) (problem : Problem) : Fault := ⟨problem, rest.length - 1⟩

/-- A place in a document: lines count from one, and a column is the number of bytes before it on its line. -/
structure Position where
  line : Nat
  column : Nat
  deriving DecidableEq, Repr

def Position.step (p : Position) (b : UInt8) : Position :=
  if b = 0x0A then ⟨p.line + 1, 0⟩ else ⟨p.line, p.column + 1⟩

/-- The place after some bytes of a document. -/
def Position.after (read : Bytes) : Position := read.foldl Position.step ⟨1, 0⟩

/-- A problem at a place. -/
structure Rejection where
  problem : Problem
  position : Position
  deriving DecidableEq, Repr

/-- The place of a fault in the document that was being read. -/
def Fault.locate (document : Bytes) (f : Fault) : Rejection :=
  ⟨f.problem, Position.after (document.take (document.length - f.unread))⟩

namespace Rejection

def message (r : Rejection) : String :=
  r.problem.message ++ " at line " ++ toString r.position.line ++ " column " ++ toString r.position.column

/-- The form in which a listing shows a rejection. -/
def shown (r : Rejection) : String :=
  "Error(" ++ Text.Quoted.quote r.problem.message ++ ", line: " ++ toString r.position.line ++ ", column: " ++
    toString r.position.column ++ ")"

end Rejection
end FlowCluster.Json
