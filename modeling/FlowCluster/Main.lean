import FlowCluster.CommandLine.Run
import FlowCluster.Http.Client

/-! # The program

Runs the command line of the process in its environment. The program opens no connections of its own, so every
directory is out of reach. -/

namespace FlowCluster

def Environment.names : List String :=
  [Setting.flowHost, .clusterHost, .masterKey, .scheme, .timeout].map Setting.variable ++ ["CP_API_KEY", "RUST_LOG"]

/-- The environment of the process. -/
def Environment.ofProcess : IO Environment := do
  let values ← Environment.names.filterMapM fun n => do
    return (← IO.getEnv n).map fun v => (n, Text.Utf8.encode v)
  return ⟨values⟩

end FlowCluster

/-- Runs the command line and leaves its exit code. -/
def main (args : List String) : IO UInt32 := do
  let environment ← FlowCluster.Environment.ofProcess
  let transport := FlowCluster.Http.Client.named.transport .down
  let outcome := FlowCluster.CommandLine.run environment args transport
  IO.print outcome.printed
  IO.eprint outcome.reported
  return outcome.exit.toUInt32
