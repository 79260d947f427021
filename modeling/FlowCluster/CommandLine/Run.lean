import FlowCluster.CommandLine.Help
import FlowCluster.CommandLine.Invocation
import FlowCluster.Log.Basic
import FlowCluster.Resolution

/-! # Running a command line

Carries out what a command line asks for. A run either prints one document, or it prints nothing and reports what
failed, with every cause below it. The log goes where the report goes. -/

namespace FlowCluster.CommandLine

/-- What a run leaves behind: its exit code, what it printed and reported, and what directories saw of it. -/
structure Outcome (ρ : Type) where
  exit : Nat
  printed : String
  reported : String
  seen : List ρ
  deriving DecidableEq, Repr

variable {ρ : Type}

namespace Action

/-- What failed, for the head of a report. -/
def heading : Action → String
  | .resolve _ id cluster _ _ => "Failed to resolve cluster " ++ cluster ++ " for flow " ++ id
  | .flow _ id => "Failed to get flow " ++ id
  | .clusters bucket => "Failed to list clusters for bucket " ++ bucket

/-- Makes the calls and brings the document to print. -/
def perform (s : Settings) (t : Transport ρ) : Action → Attempt ρ LookupFailure Json.Value
  | .resolve apiKey id cluster strict showPassword => do
    let c ← if strict then Resolution.resolveStrict s t apiKey id cluster
      else Resolution.resolve s t apiKey id cluster
    return (if showPassword then c else c.redacted).toValue
  | .flow apiKey id => do return (← Resolution.flow s t apiKey id).team.toValue
  | .clusters bucket => do
    let cs ← Resolution.clusters s t bucket
    .report (.listed cs.length)
    return .list (cs.map Cluster.summary)

end Action

/-- A cause in a report. Each of its lines stands behind a margin, with the number of the cause in the first if
there are several. -/
def causeLines (number : Option Nat) (message : String) : String :=
  let first := match number with
    | some n =>
      let digits := toString n
      spaces (5 - digits.length) ++ digits ++ ": "
    | none => "    "
  let margin := if number.isSome then "       " else "    "
  first ++ String.intercalate ("\n" ++ margin) ((Text.parts (· == '\n') message.toList).map String.ofList)

/-- The report of a failure: the heading, and every cause from the outermost one. -/
def report (heading : String) (e : LookupFailure) : String :=
  let causes := e.message :: e.chain
  let lines := causes.zipIdx.map fun (m, n) => causeLines (if causes.length > 1 then some n else none) m
  "Error: " ++ heading ++ "\n\nCaused by:\n" ++ String.intercalate "\n" lines ++ "\n"

namespace Invocation

def log (i : Invocation) (f : Log.Filter) (events : List Event) : String :=
  String.join ((events.filter f.shows).map fun e => if i.json then Log.documentLine e else Log.textLine e)

/-- The filter of a run. The environment counts for more than the command line. -/
def filter (i : Invocation) (e : Environment) : Log.Filter :=
  .ofEnvironment e (.upTo (if i.verbose then .debug else .info))

/-- Carries out an invocation. -/
def run (i : Invocation) (f : Log.Filter) (t : Transport ρ) : Outcome ρ :=
  let a := i.action.perform i.settings t
  let log := i.log f (.starting i.settings.flowHost i.settings.clusterHost :: a.events)
  match a.result with
  | .ok v => ⟨0, v.pretty ++ "\n", log, a.seen⟩
  | .error e => ⟨1, "", log ++ report i.action.heading e, a.seen⟩

end Invocation

def versionText : String := program ++ " 0.1.0\n"

/-- What is left when a command line is not carried out. Help that nobody asked for is reported. -/
def Stop.outcome (e : Environment) : Stop → Outcome ρ
  | .help s => ⟨0, s.helpText e, "", []⟩
  | .version => ⟨0, versionText, "", []⟩
  | .nothing => ⟨2, "", Scope.top.helpText e, []⟩
  | .misuse c => ⟨2, "", c.text, []⟩

/-- Runs a command line in an environment over a transport. -/
def run (e : Environment) (args : List String) (t : Transport ρ) : Outcome ρ :=
  match Invocation.read e args with
  | .ok i => i.run (i.filter e) t
  | .error s => s.outcome e

end FlowCluster.CommandLine
