import FlowCluster.Settings.Basic
import FlowCluster.Text.Basic

/-! # Arguments

What can be given on a command line by name. An option takes a value, which may also come from the environment or
be implied; a flag takes none; two more arguments ask for help and for the version. -/

namespace FlowCluster.CommandLine

/-- What the value of an option must be. -/
inductive Format
  | text
  | count
  deriving DecidableEq, Repr

/-- What an argument is for. -/
inductive Purpose
  | option (placeholder : String) (format : Format) (required : Bool)
  | flag (short : Option Char)
  | help
  | version
  deriving DecidableEq, Repr

/-- The environment variable that stands in for an option, and whether help may show what it holds. -/
structure Fallback where
  source : String
  shown : Bool
  deriving DecidableEq, Repr

/-- An argument, by its name without dashes. -/
structure Argument where
  name : String
  purpose : Purpose
  about : String
  fallback : Option Fallback
  implied : Option String
  deriving DecidableEq, Repr

namespace Argument

/-- The argument as it is given. -/
def dashed (a : Argument) : String := "--" ++ a.name

/-- The argument with a placeholder for its value. -/
def shown (a : Argument) : String :=
  match a.purpose with
  | .option placeholder _ _ => a.dashed ++ " <" ++ placeholder ++ ">"
  | _ => a.dashed

def short? (a : Argument) : Option Char :=
  match a.purpose with
  | .option .. => none
  | .flag c => c
  | .help => some 'h'
  | .version => some 'V'

/-- Whether a command does not run without the argument. -/
def isRequired (a : Argument) : Bool :=
  match a.purpose with
  | .option _ _ required => required
  | _ => false

/-- Whether the argument belongs to its command, unlike those that ask for help and for the version. -/
def isOwn (a : Argument) : Bool :=
  match a.purpose with
  | .help | .version => false
  | _ => true

/-- Whether a usage line stands for the argument by a general word. -/
def isOptional (a : Argument) : Bool :=
  match a.purpose with
  | .option _ _ required => !required
  | .flag _ => true
  | _ => false

/-- Whether a value takes the form of a count where the argument asks for one. -/
def check (a : Argument) (value : String) : Except Text.Count.Refusal Unit :=
  match a.purpose with
  | .option _ .count _ => (Text.Count.read value).map fun _ => ()
  | _ => .ok ()

/-- An option that has an implied value and takes one from the variable of a setting. -/
def setting (name placeholder : String) (format : Format) (about : String) (s : Setting) (shown : Bool)
    (implied : String) : Argument :=
  ⟨name, .option placeholder format false, about, some ⟨s.variable, shown⟩, some implied⟩

/-- An option that must be given. -/
def need (name placeholder about : String) (fallback : Option Fallback) : Argument :=
  ⟨name, .option placeholder .text true, about, fallback, none⟩

def flowHost : Argument :=
  setting "flow-host" "FLOW_HOST" .text "Flow directory host" .flowHost true ""

def clusterHost : Argument :=
  setting "cluster-host" "CLUSTER_HOST" .text "Cluster directory host" .clusterHost true ""

def masterKey : Argument :=
  setting "master-api-key" "MASTER_API_KEY" .text "Master API key for the cluster directory" .masterKey false ""

def scheme : Argument :=
  setting "scheme" "SCHEME" .text "Upstream URL scheme" .scheme true Settings.defaultScheme

def timeout : Argument :=
  setting "timeout" "TIMEOUT" .count "Upstream request timeout in seconds" .timeout true
    (toString Settings.defaultSeconds)

def verbose : Argument :=
  ⟨"verbose", .flag (some 'v'), "Enable verbose logging (RUST_LOG takes precedence)", none, none⟩

def json : Argument := ⟨"json", .flag none, "Log as JSON", none, none⟩

def help : Argument := ⟨"help", .help, "Print help", none, none⟩

def version : Argument := ⟨"version", .version, "Print version", none, none⟩

def apiKey : Argument := need "api-key" "API_KEY" "Caller's API key" (some ⟨"CP_API_KEY", false⟩)

def flow : Argument := need "flow" "FLOW" "Flow UUID" none

def cluster : Argument := need "cluster" "CLUSTER" "Cluster identifier" none

def bucket : Argument := need "bucket" "BUCKET" "Bucket UUID" none

def strict : Argument :=
  ⟨"strict", .flag none, "Fail when no cluster matches instead of printing an empty record", none, none⟩

def showPassword : Argument :=
  ⟨"show-password", .flag none, "Print the cluster password in cleartext", none, none⟩

end Argument
end FlowCluster.CommandLine
