import FlowCluster.Exchange
import FlowCluster.Json.Layout
import FlowCluster.Record.Cluster
import FlowCluster.Record.Flow
import FlowCluster.Settings.Address

/-! # Lookups

What a directory is asked for and what is made of its answer. The two lookups differ in the address, the key and the record
that they read. -/

/-! ## Looking up a document

From an answer to a record: the body of an answer that is fit to be read, and the record that the body writes.
The body of an answer that fails is reported, once and no more than an excerpt of it. -/

namespace FlowCluster.Lookup

variable {ρ α : Type}

/-- The body of an answer. That there is none counts before the status, and only status 200 will do. -/
def readBody (r : Response) : Attempt ρ CallFailure Bytes :=
  match r.body with
  | none => .ofExcept (.error (.emptyBody r.url r.status))
  | some body =>
    if r.status = 200 then .ofExcept (.ok body)
    else ⟨.error (.status r.url r.status), [], [.statusNotOk r.url r.status body]⟩

/-- The record that a body writes. -/
def decodeBody (decoder : Json.Decoder α) (url : String) (body : Bytes) : Attempt ρ CallFailure α :=
  match Json.read decoder body with
  | .ok x => .ofExcept (.ok x)
  | .error r => ⟨.error (.decode url r), [], [.decodingFailed url r body]⟩

/-- Requests a document and reads the record in it. A call that brings no body is reported once more, by the
lookup that made it. -/
def document (t : Transport ρ) (decoder : Json.Decoder α) (failed : CallFailure → Event) (request : Request) :
    Attempt ρ CallFailure α := do
  let body ← (do readBody (← t.fetch request)).reportFailure failed
  decodeBody decoder request.url body

/-! ## The two lookups

A flow is looked up with the caller's own key, the clusters of a bucket with the master key. Neither lookup knows
the other's key. -/

def flow (s : Settings) (t : Transport ρ) (apiKey id : String) : Attempt ρ CallFailure Flow := do
  let url ← .ofExcept (s.flowUrl id)
  .report (.fetchingFlow url)
  document t Flow.decoder (.flowCallFailed url) ⟨url, apiKey⟩

def clusters (s : Settings) (t : Transport ρ) (bucket : String) : Attempt ρ CallFailure (List Cluster) := do
  let url ← .ofExcept (s.bucketUrl bucket)
  .report (.fetchingClusters url)
  document t (Json.list Cluster.decoder) (.clustersCallFailed url) ⟨url, s.masterKey⟩

end FlowCluster.Lookup
