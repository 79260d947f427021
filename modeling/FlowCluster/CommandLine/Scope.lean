import FlowCluster.CommandLine.Argument

/-! # Commands and their usage

The program has three commands and a fourth that gives help. Each of them, like the program itself, is a scope: the
place in a command line where certain arguments may stand. The usage line of a scope names what must be given. -/

namespace FlowCluster.CommandLine

inductive Command
  | resolve
  | flow
  | clusters
  deriving DecidableEq, Repr

namespace Command

/-- All commands, in the order they are listed. -/
def all : List Command := [.resolve, .flow, .clusters]

def name : Command → String
  | .resolve => "resolve"
  | .flow => "flow"
  | .clusters => "clusters"

def about : Command → String
  | .resolve => "Resolve a cluster for a flow"
  | .flow => "Show the flow's owning team"
  | .clusters => "List the clusters registered under a bucket"

def arguments : Command → List Argument
  | .resolve => [.apiKey, .flow, .cluster, .strict, .showPassword, .help]
  | .flow => [.apiKey, .flow, .help]
  | .clusters => [.bucket, .help]

def named? (s : String) : Option Command := all.find? fun c => c.name == s

end Command

def program : String := "cluster-resolver"

/-- A place in a command line. An operand is named by its place alone. -/
structure Scope where
  path : String
  about : String
  arguments : List Argument
  commands : List Command
  operand : Option (String × String)
  deriving DecidableEq, Repr

/-- What a usage line is about: nothing in particular, some arguments, or some arguments and the choice of all. -/
inductive Focus
  | general
  | these (used : List Argument)
  | choice (used : List Argument)
  deriving DecidableEq, Repr

/-- The arguments that were used, if any. -/
def Focus.on : List Argument → Focus
  | [] => .general
  | as => .these as

namespace Scope

/-- The name of the command that gives help. -/
def helpName : String := "help"

def helpAbout : String := "Print this message or the help of the given subcommand(s)"

def top : Scope where
  path := program
  about := "Resolve cluster address and credentials for a flow"
  arguments := [.flowHost, .clusterHost, .masterKey, .scheme, .timeout, .verbose, .json, .help, .version]
  commands := Command.all
  operand := none

def ofCommand (c : Command) : Scope := ⟨program ++ " " ++ c.name, c.about, c.arguments, [], none⟩

/-- The command that gives help, for which there is help too. -/
def help : Scope :=
  ⟨program ++ " " ++ helpName, helpAbout, [], [],
    some ("[COMMAND]...", "Print help for the subcommand(s)")⟩

/-- Names that go with a scope, each with what it does. -/
def listed (s : Scope) : List (String × String) :=
  if s.commands.isEmpty then [] else s.commands.map (fun c => (c.name, c.about)) ++ [(helpName, helpAbout)]

/-- The names of the commands of a scope. -/
def names (s : Scope) : List String := s.listed.map Prod.fst

/-- The scope of a command of a scope. -/
def child? (s : Scope) (name : String) : Option Scope :=
  if s.commands.isEmpty then none
  else if name = helpName then some help
  else (s.commands.find? fun c => c.name == name).map ofCommand

/-- Whether help can be asked for by an argument. -/
def hasHelp (s : Scope) : Bool := s.arguments.contains .help

def required (s : Scope) : List Argument := s.arguments.filter Argument.isRequired

def usageEnd (s : Scope) : String :=
  (if s.commands.isEmpty then "" else " <COMMAND>") ++
    (match s.operand with
      | some (o, _) => " " ++ o
      | none => "")

/-- The arguments of a scope as one choice. Help and version are not among them. -/
def choice (s : Scope) : String :=
  "<" ++ String.intercalate "|" ((s.arguments.filter Argument.isOwn).map Argument.shown) ++ ">"

/-- The usage line: a general one, or one with the arguments that it is about after the required ones, or one in
which all of the arguments that belong to the scope are a choice. -/
def usage (s : Scope) : Focus → String
  | .general =>
    let options := if s.arguments.any Argument.isOptional then " [OPTIONS]" else ""
    s.path ++ options ++ String.join (s.required.map fun a => " " ++ a.shown) ++ s.usageEnd
  | .these used =>
    let named := s.required ++ used.filter fun a => !a.isRequired
    s.path ++ String.join (named.eraseDups.map fun a => " " ++ a.shown) ++ s.usageEnd
  | .choice used =>
    let named := (used.filter fun a => !a.isOwn).eraseDups
    s.path ++ String.join (named.map fun a => " " ++ a.shown) ++ " " ++ s.choice ++ s.usageEnd

end Scope
end FlowCluster.CommandLine
