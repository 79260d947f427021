import FlowCluster.Failure

/-! # Events

What a lookup reports of its progress. An event is a fact with its data; its level, its message and its named
fields are read off it. Only two events carry a body, and they show an excerpt of it: the first 2048 bytes, read
leniently, and three dots if there is more. -/

namespace FlowCluster

/-- The greatest number of bytes shown. -/
def excerptLimit : Nat := 2048

/-- The part of a body that a log shows. -/
def excerpt (body : Bytes) : String :=
  let shown := Text.Utf8.lossy (body.take excerptLimit)
  if (body.drop excerptLimit).isEmpty then shown else shown ++ "..."

/-- How loud an event is. -/
inductive Level
  | error
  | warn
  | info
  | debug
  | trace
  deriving DecidableEq, Repr

/-- A value of a field: a text, or a number. -/
inductive FieldValue
  | text (value : String)
  | number (value : Nat)
  deriving DecidableEq, Repr

def FieldValue.toText : FieldValue → String
  | .text s => s
  | .number n => toString n

inductive Event
  | fetchingFlow (url : String)
  | flowCallFailed (url : String) (failure : CallFailure)
  | flowResolved (flow bucket team : String)
  | fetchingClusters (url : String)
  | clustersCallFailed (url : String) (failure : CallFailure)
  | sendingFailed (url error : String)
  | statusNotOk (url : String) (status : UInt16) (body : Bytes)
  | decodingFailed (url : String) (rejection : Json.Rejection) (body : Bytes)
  | resolved (flow bucket cluster : String)
  | nothingMatched (flow bucket cluster : String)
  | starting (flowHost clusterHost : String)
  | listed (count : Nat)
  deriving DecidableEq, Repr

namespace Event

def level : Event → Level
  | .resolved .. => .info
  | .nothingMatched .. => .warn
  | .starting .. => .info
  | .listed .. => .info
  | _ => .debug

def message : Event → String
  | .fetchingFlow _ => "Fetching flow"
  | .flowCallFailed .. => "Error during flow request"
  | .flowResolved .. => "Flow resolved to bucket"
  | .fetchingClusters _ => "Fetching bucket clusters"
  | .clustersCallFailed .. => "Error during bucket clusters request"
  | .sendingFailed .. => "Upstream request failed"
  | .statusNotOk .. => "Upstream returned non-OK status"
  | .decodingFailed .. => "Failed to decode upstream response"
  | .resolved .. => "Resolved cluster"
  | .nothingMatched .. => "No cluster matched, returning empty record"
  | .starting .. => "Cluster resolver starting"
  | .listed n => "Listed " ++ toString n ++ " clusters"

/-- The named values of an event, in the order they are written. -/
def fields : Event → List (String × FieldValue)
  | .fetchingFlow url => [("url", .text url)]
  | .flowCallFailed url e => [("url", .text url), ("error", .text e.message)]
  | .flowResolved flow bucket team => [("flow", .text flow), ("bucket", .text bucket), ("team", .text team)]
  | .fetchingClusters url => [("url", .text url)]
  | .clustersCallFailed url e => [("url", .text url), ("error", .text e.message)]
  | .sendingFailed url e => [("url", .text url), ("error", .text e)]
  | .statusNotOk url status body =>
    [("url", .text url), ("status", .number status.toNat), ("body", .text (excerpt body))]
  | .decodingFailed url r body =>
    [("url", .text url), ("error", .text r.message), ("body", .text (excerpt body))]
  | .resolved flow bucket cluster =>
    [("flow", .text flow), ("bucket", .text bucket), ("cluster", .text cluster)]
  | .nothingMatched flow bucket cluster =>
    [("flow", .text flow), ("bucket", .text bucket), ("cluster", .text cluster)]
  | .starting flowHost clusterHost => [("flow_host", .text flowHost), ("cluster_host", .text clusterHost)]
  | .listed _ => []

/-- The part of the program that reports an event, by which a log can be narrowed. -/
def origin : Event → String
  | .fetchingFlow _ => "cluster_resolver::flow"
  | .flowCallFailed .. => "cluster_resolver::flow"
  | .flowResolved .. => "cluster_resolver::resolver"
  | .fetchingClusters _ => "cluster_resolver::cluster"
  | .clustersCallFailed .. => "cluster_resolver::cluster"
  | .sendingFailed .. => "cluster_resolver::transport"
  | .statusNotOk .. => "cluster_resolver::decoder"
  | .decodingFailed .. => "cluster_resolver::decoder"
  | .resolved .. => "cluster_resolver::resolver"
  | .nothingMatched .. => "cluster_resolver::resolver"
  | .starting .. => "cluster_resolver"
  | .listed _ => "cluster_resolver"

end Event
end FlowCluster
