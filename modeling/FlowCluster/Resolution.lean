import FlowCluster.Lookup

/-! # Resolution

From a flow to its cluster: the flow directory names the bucket, the cluster directory lists the clusters of the
bucket, and one of them is selected. Each lookup first checks the settings it needs. -/

/-! ## Selection of a cluster

The cluster of an identifier in the list of a bucket. Identifiers may repeat, and the last one counts. The lenient
selection answers a miss with the blank cluster, the strict one with a failure. -/

namespace FlowCluster.Selection

/-- The last cluster of the identifier, or the blank one. -/
def select (clusters : List Cluster) (identifier : String) : Cluster :=
  clusters.foldl (fun target c => if c.identifier = identifier then c else target) .blank

/-- The last cluster of the identifier, or the failure that names the bucket. -/
def selectStrict (clusters : List Cluster) (bucket identifier : String) : Except LookupFailure Cluster :=
  match (clusters.filter fun c => c.identifier = identifier).getLast? with
  | some c => .ok c
  | none => .error (.clusterNotFound bucket identifier)

end FlowCluster.Selection

/-! ## The calls of a resolution -/

namespace FlowCluster.Resolution

variable {ρ : Type}

/-- Looks up a flow under settings that allow it. -/
def flow (s : Settings) (t : Transport ρ) (apiKey id : String) : Attempt ρ LookupFailure Flow := do
  .ofExcept (s.checkFlow.mapError .misconfigured)
  (Lookup.flow s t apiKey id).mapFailure .flow

/-- Looks up the clusters of a bucket under settings that allow it. -/
def clusters (s : Settings) (t : Transport ρ) (bucket : String) : Attempt ρ LookupFailure (List Cluster) := do
  .ofExcept (s.checkClusters.mapError .misconfigured)
  (Lookup.clusters s t bucket).mapFailure .clusters

/-- The bucket of a flow, and the clusters in it. -/
def bucketClusters (s : Settings) (t : Transport ρ) (apiKey id : String) :
    Attempt ρ LookupFailure (String × List Cluster) := do
  let f ← flow s t apiKey id
  .report (.flowResolved id f.bucket f.team.slug)
  let cs ← clusters s t f.bucket
  return (f.bucket, cs)

/-- The cluster of a flow, blank if there is none of the identifier. -/
def resolve (s : Settings) (t : Transport ρ) (apiKey id identifier : String) :
    Attempt ρ LookupFailure Cluster := do
  let (bucket, cs) ← bucketClusters s t apiKey id
  let c := Selection.select cs identifier
  .report (if c.isBlank then .nothingMatched id bucket identifier else .resolved id bucket identifier)
  return c

/-- The cluster of a flow, or a failure if there is none of the identifier. -/
def resolveStrict (s : Settings) (t : Transport ρ) (apiKey id identifier : String) :
    Attempt ρ LookupFailure Cluster := do
  let (bucket, cs) ← bucketClusters s t apiKey id
  let c ← .ofExcept (Selection.selectStrict cs bucket identifier)
  .report (.resolved id bucket identifier)
  return c

end FlowCluster.Resolution
