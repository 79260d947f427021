import FlowCluster.Directory
import FlowCluster.Resolution

/-! # Sessions

A sequence of calls under one configuration. A step is answered by a transport alone, so over a directory in
memory the pages can be changed between steps. -/

namespace FlowCluster

/-- A call that a session makes. The last two go to a directory without checking the settings first. -/
inductive Step
  | resolve (apiKey flow cluster : String)
  | resolveStrict (apiKey flow cluster : String)
  | flow (apiKey flow : String)
  | clusters (bucket : String)
  | flowUnchecked (apiKey flow : String)
  | clustersUnchecked (bucket : String)
  deriving DecidableEq, Repr

inductive Answer
  | cluster (cluster : Cluster)
  | flow (flow : Flow)
  | clusters (clusters : List Cluster)
  deriving Repr

/-- What stops a step: the failure of a lookup, or that of a single call. -/
inductive StepFailure
  | lookup (failure : LookupFailure)
  | call (failure : CallFailure)
  deriving DecidableEq, Repr

namespace Step

variable {ρ : Type}

def run (s : Settings) (t : Transport ρ) : Step → Attempt ρ StepFailure Answer
  | .resolve apiKey id cluster => (Answer.cluster <$> Resolution.resolve s t apiKey id cluster).mapFailure .lookup
  | .resolveStrict apiKey id cluster =>
    (Answer.cluster <$> Resolution.resolveStrict s t apiKey id cluster).mapFailure .lookup
  | .flow apiKey id => (Answer.flow <$> Resolution.flow s t apiKey id).mapFailure .lookup
  | .clusters bucket => (Answer.clusters <$> Resolution.clusters s t bucket).mapFailure .lookup
  | .flowUnchecked apiKey id => (Answer.flow <$> Lookup.flow s t apiKey id).mapFailure .call
  | .clustersUnchecked bucket => (Answer.clusters <$> Lookup.clusters s t bucket).mapFailure .call

end Step

/-- One entry of a session over a directory in memory: a call, or a page that is put in place. -/
inductive SessionEntry
  | step (step : Step)
  | publish (url : String) (page : Page)
  deriving DecidableEq, Repr

/-- Answers the entries in order; a page that is put in place brings no attempt. -/
def runSession (s : Settings) : Directory → List SessionEntry → List (Option (Attempt Request StepFailure Answer))
  | _, [] => []
  | d, .step x :: rest => some (x.run s d.transport) :: runSession s d rest
  | d, .publish url page :: rest => none :: runSession s (d.publish url page) rest

end FlowCluster
