import FlowCluster.CommandLine.Misuse
import FlowCluster.CommandLine.Similarity
import FlowCluster.Settings.Basic
import FlowCluster.Text.Basic

/-! # Scanning a scope

Takes the arguments of a scope from the left, until they are used up or a command takes over. The value of an
option may be attached to it or follow it; one that follows is looked at only when the next argument is understood,
so that an argument that is not known is reported before it. What is wrong with a value that was looked at ends the
scan. -/

namespace FlowCluster.CommandLine

/-- Why a command line is not carried out. -/
inductive Stop
  | help (scope : Scope)
  | version
  | nothing
  | misuse (complaint : Complaint)
  deriving DecidableEq, Repr

/-- What a scope has been given: arguments with their values in order, and an option whose value is awaited or not
yet looked at. A flag has an empty value. -/
structure Progress where
  given : List (Argument × String)
  pending : Option (Argument × Option String)
  deriving DecidableEq, Repr

namespace Progress

def start : Progress := ⟨[], none⟩

def has (p : Progress) (a : Argument) : Bool := p.given.any fun g => g.1 == a

/-- Whether the next argument may be a value. -/
def isAwaiting (p : Progress) : Bool := (p.pending.map fun q => q.2.isNone).getD false

/-- The value of an argument: the one given, or the implied one, or an empty one. -/
def value (p : Progress) (a : Argument) : String :=
  match p.given.find? fun g => g.1 == a with
  | some (_, v) => v
  | none => a.implied.getD ""

def used (p : Progress) : List Argument := p.given.map Prod.fst

/-- Looks at an argument and its value. What is wrong with them does not keep the value out. -/
def accept (p : Progress) (a : Argument) (value : String) : Progress × Option Misuse :=
  if p.has a then ({ p with given := p.given.filter fun g => g.1 != a }, some (.repeated a))
  else
    let p := { p with given := p.given ++ [(a, value)] }
    match a.check value with
    | .ok _ => (p, none)
    | .error r => (p, some (.invalidValue a value r))

/-- Looks at the value that is pending. -/
def settle (p : Progress) : Progress × Option Misuse :=
  match p.pending with
  | none => (p, none)
  | some (a, none) => ({ p with pending := none }, some (.valueMissing a))
  | some (a, some v) => { p with pending := none }.accept a v

end Progress

namespace Scope

/-- A misuse with the general usage line. -/
def complain (s : Scope) (m : Misuse) : Stop := .misuse ⟨m, s, .general⟩

/-- Goes on unless something is wrong. -/
def proceed (s : Scope) : Progress × Option Misuse → Except Stop Progress
  | (p, none) => .ok p
  | (_, some m) => .error (s.complain m)

/-- Goes on once the pending value is looked at. -/
def settled (s : Scope) (p : Progress) : Except Stop Progress := s.proceed p.settle

/-- The help that is asked for by the names of commands. -/
def helpFor (s : Scope) : List String → Stop
  | [] => .help s
  | n :: rest =>
    match s.child? n with
    | some t => t.helpFor rest
    | none => s.complain (.unknownCommand n [])

/-- The argument whose name is closest to a word. -/
def closest? (s : Scope) (word : String) : Option Argument :=
  (Similarity.close word (s.arguments.map Argument.name)).getLast?.bind fun n =>
    s.arguments.find? fun a => a.name == n

/-- Of the commands that come later on the line and have an argument close to a word, the one that comes first. -/
def elsewhere? (s : Scope) (word : String) (rest : List String) : Option Tip :=
  rest.findSome? fun r => do
    let c ← s.commands.find? fun c => c.name == r
    return .elsewhere c (← (ofCommand c).closest? word)

/-- What to say of a name that the scope does not know. The usage line is about what was given so far, and what may
have been meant. -/
def unknownName (s : Scope) (p : Progress) (name : String) (rest : List String) : Stop :=
  let given := p.settle.1.used
  let near := s.closest? name
  let tip := (near.map Tip.similar).or (s.elsewhere? name rest)
  .misuse ⟨.unexpected ("--" ++ name) tip, s, .on (given ++ near.toList)⟩

/-- What to say of a value for an argument that takes none. Once arguments of its own were given to the scope, the
usage line has all of them as a choice. -/
def surplus (s : Scope) (p : Progress) (a : Argument) (value : String) : Stop :=
  .misuse ⟨.unexpectedValue a value, s, if p.given.isEmpty then .these [a] else .choice [a]⟩

/-- Takes an argument without a value. -/
def onSwitch (s : Scope) (p : Progress) (a : Argument) : Except Stop Progress := do
  let p ← s.settled p
  match a.purpose with
  | .help => .error (.help s)
  | .version => .error .version
  | _ => s.proceed (p.accept a "")

/-- Takes an argument by its name, with the value that is attached to it. -/
def onName (s : Scope) (p : Progress) (name : String) (value : Option String) (rest : List String) :
    Except Stop Progress :=
  match s.arguments.find? fun a => a.name == name with
  | none => .error (s.unknownName p name rest)
  | some a =>
    match a.purpose, value with
    | .option .., some v => do s.proceed ((← s.settled p).accept a v)
    | .option .., none => do return { ← s.settled p with pending := some (a, none) }
    | _, some v => .error (s.surplus p a v)
    | _, none => s.onSwitch p a

/-- Takes arguments by their letters. -/
def onLetters (s : Scope) (p : Progress) : List Char → Except Stop Progress
  | [] => .ok p
  | c :: r =>
    match s.arguments.find? fun a => a.short? == some c with
    | none => .error (s.complain (.unexpected (String.ofList ['-', c]) none))
    | some a => do s.onLetters (← s.onSwitch p a) r

/-- What to say of an argument that stands for itself. -/
def stray (s : Scope) (argument : String) : Stop :=
  if s.names.isEmpty then s.complain (.unexpected argument none)
  else s.complain (.unknownCommand argument (Similarity.close argument s.names))

/-- What to say of the first argument after two dashes. -/
def strayAfterDashes (s : Scope) (argument : String) : Stop :=
  if s.names.contains argument then s.complain (.unexpected argument (some (.noDashes argument)))
  else s.stray argument

/-- A name and the value attached to it. -/
def splitName (cs : List Char) : String × Option String :=
  let (n, v) := Text.cutAt '=' cs
  (String.ofList n, v.map String.ofList)

/-- Scans the arguments of a scope. The command that takes over comes with the arguments left to it. -/
def scan (s : Scope) (p : Progress) : List String → Except Stop (Progress × Option (Command × List String))
  | [] => .ok (p, none)
  | arg :: rest =>
    match if p.isAwaiting then none else s.commands.find? fun c => c.name == arg with
    | some c => .ok (p, some (c, rest))
    | none =>
      if !p.isAwaiting ∧ s.names.contains arg then .error (s.helpFor rest)
      else
        match arg.toList with
        | ['-', '-'] =>
          match rest with
          | [] => .ok (p, none)
          | a :: _ => .error (s.strayAfterDashes a)
        | '-' :: '-' :: cs => do
          let (name, value) := splitName cs
          s.scan (← s.onName p name value rest) rest
        | '-' :: c :: cs => do s.scan (← s.onLetters p (c :: cs)) rest
        | _ =>
          match p.pending with
          | some (a, none) => s.scan { p with pending := some (a, some arg) } rest
          | _ => .error (s.stray arg)

end Scope
end FlowCluster.CommandLine
