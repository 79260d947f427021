import FlowCluster.CommandLine.Scope
import FlowCluster.Text.Terminal

/-! # Misuse

What can be wrong with a command line, and the message for it: the error, a tip where one may help, the usage of
the scope where it does not speak for itself, and where to find more. -/

namespace FlowCluster.CommandLine

/-- What may have been meant. -/
inductive Tip
  | similar (argument : Argument)
  | elsewhere (command : Command) (argument : Argument)
  | noDashes (command : String)
  deriving DecidableEq, Repr

def Tip.spans : Tip → List Text.Terminal.Span
  | .similar a => [.plain "a similar argument exists: '", .marked a.dashed, .plain "'"]
  | .elsewhere c a => [.plain "'", .marked (c.name ++ " " ++ a.dashed), .plain "' exists"]
  | .noDashes c =>
    [.plain "subcommand '", .marked c, .plain "' exists; to use it, remove the '", .marked "--", .plain "' before it"]

inductive Misuse
  | unexpected (argument : String) (tip : Option Tip)
  | unexpectedValue (argument : Argument) (value : String)
  | invalidValue (argument : Argument) (value : String) (refusal : Text.Count.Refusal)
  | valueMissing (argument : Argument)
  | repeated (argument : Argument)
  | missing (arguments : List Argument)
  | commandMissing
  | unknownCommand (name : String) (similar : List String)
  | notText
  deriving DecidableEq, Repr

namespace Misuse

/-- Marked words between quotes. -/
def quoted (word : String) : List Text.Terminal.Span := [.plain "'", .marked word, .plain "'"]

/-- Marked words between quotes, one after another. -/
def enumerated (words : List String) : List Text.Terminal.Span := [.plain ", "].intercalate (words.map quoted)

/-- The words for a misuse in a scope. -/
def spans (s : Scope) : Misuse → List Text.Terminal.Span
  | .unexpected a _ => .plain "unexpected argument " :: quoted a ++ [.plain " found"]
  | .unexpectedValue a v =>
    .plain "unexpected value " :: quoted v ++ .plain " for " :: quoted a.shown ++
      [.plain " found; no more were expected"]
  | .invalidValue a v r =>
    .plain "invalid value " :: quoted v ++ .plain " for " :: quoted a.shown ++ [.plain (": " ++ r.message)]
  | .valueMissing a => .plain "a value is required for " :: quoted a.shown ++ [.plain " but none was supplied"]
  | .repeated a => .plain "the argument " :: quoted a.shown ++ [.plain " cannot be used multiple times"]
  | .missing as =>
    .plain "the following required arguments were not provided:" ::
      as.flatMap fun a => [.plain "\n  ", .marked a.shown]
  | .commandMissing =>
    quoted s.path ++ .plain " requires a subcommand but one was not provided\n  [subcommands: " ::
      [.plain ", "].intercalate (s.names.map fun n => [.marked n]) ++ [.plain "]"]
  | .unknownCommand n _ => .plain "unrecognized subcommand " :: quoted n
  | .notText => [.plain "invalid UTF-8 was detected in one or more arguments"]

def tip? : Misuse → Option (List Text.Terminal.Span)
  | .unexpected _ t => t.map Tip.spans
  | .unknownCommand _ [] => none
  | .unknownCommand _ [n] => some (.plain "a similar subcommand exists: " :: quoted n)
  | .unknownCommand _ ns => some (.plain "some similar subcommands exist: " :: enumerated ns)
  | _ => none

/-- A value that is missing or does not fit needs no usage line to be understood. -/
def showsUsage : Misuse → Bool
  | .invalidValue .. => false
  | .valueMissing _ => false
  | _ => true

end Misuse

/-- A misuse, where it is, and what the usage line is about. -/
structure Complaint where
  misuse : Misuse
  scope : Scope
  focus : Focus
  deriving DecidableEq, Repr

namespace Complaint

/-- The whole message of a complaint, as it is written for a screen. -/
def spans (c : Complaint) : List Text.Terminal.Span :=
  .marked "error:" :: .plain " " :: c.misuse.spans c.scope ++
    (match c.misuse.tip? with
      | some t => .plain "\n\n  " :: .marked "tip:" :: .plain " " :: t
      | none => []) ++
    (if c.misuse.showsUsage then
      [.plain "\n\n", .marked "Usage:", .plain (" " ++ c.scope.usage c.focus)]
    else []) ++
    (if c.scope.hasHelp then [.plain "\n\nFor more information, try '", .marked "--help", .plain "'.\n"]
    else [.plain "\n"])

def text (c : Complaint) : String := Text.Terminal.shown c.spans

end Complaint
end FlowCluster.CommandLine
