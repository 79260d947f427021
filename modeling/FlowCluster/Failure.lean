import FlowCluster.Json.Fault
import FlowCluster.Settings.Basic

/-! # Failures

A *call failure* says what went wrong with one call to a directory, and names the address called. A *lookup
failure* says which of the two lookups it belongs to, or what else stopped a resolution. Both have a message of
one line and the chain of causes below it. -/

namespace FlowCluster

/-- Why a network brought no whole answer: what is said of it, and what lies below that, outermost first. -/
structure NetworkFault where
  message : String
  causes : List String
  deriving DecidableEq, Repr

namespace NetworkFault

/-- A connection that did not come about. -/
def unconnected (url reason : String) : NetworkFault :=
  ⟨"error sending request for url (" ++ url ++ ")", ["client error (Connect)", "tcp connect error", reason]⟩

def unreachable (url : String) : NetworkFault := unconnected url "Network is unreachable (os error 101)"

def refused (url : String) : NetworkFault := unconnected url "Connection refused (os error 111)"

/-- A body that ends before all of it has come. -/
def cutBody : NetworkFault where
  message := "error decoding response body"
  causes := ["request or response body error", "error reading a body from connection",
    "end of file before message length reached"]

end NetworkFault

/-- Why a call was sent and not answered: what a service says of itself, or a fault of the network. -/
inductive TransportCause
  | stated (message : String)
  | network (fault : NetworkFault)
  deriving DecidableEq, Repr

namespace TransportCause

def message : TransportCause → String
  | .stated m => m
  | .network f => f.message

/-- The causes that stand behind a transport failure. -/
def chain : TransportCause → List String
  | .stated _ => []
  | .network f => f.message :: f.causes

end TransportCause

/-- What went wrong with one call to a directory. -/
inductive CallFailure
  | request (url message : String)
  | transport (url : String) (cause : TransportCause)
  | status (url : String) (code : UInt16)
  | emptyBody (url : String) (code : UInt16)
  | decode (url : String) (rejection : Json.Rejection)
  deriving DecidableEq, Repr

namespace CallFailure

def url : CallFailure → String
  | .request u _ => u
  | .transport u _ => u
  | .status u _ => u
  | .emptyBody u _ => u
  | .decode u _ => u

/-- The status of the answer that was found wanting for it. -/
def status? : CallFailure → Option UInt16
  | .status _ n => some n
  | .emptyBody _ n => some n
  | _ => none

def message : CallFailure → String
  | .request u m => "failed to build request for " ++ u ++ ": " ++ m
  | .transport u c => "transport error calling " ++ u ++ ": " ++ c.message
  | .status u n => "upstream " ++ u ++ " returned status " ++ toString n
  | .emptyBody u n => "upstream " ++ u ++ " returned no response body, status " ++ toString n
  | .decode u r => "failed to decode response from " ++ u ++ ": " ++ r.message

/-- The causes below a call failure, outermost first. -/
def chain : CallFailure → List String
  | .transport _ c => c.chain
  | .decode _ r => [r.message]
  | _ => []

/-- The failure for a reader, with all its parts. -/
def shown (e : CallFailure) : String :=
  Text.Listing.inline <|
    match e with
    | .request u m => ⟨"Request", [("url", Text.Quoted.quote u), ("message", Text.Quoted.quote m)]⟩
    | .transport u c =>
      ⟨"Transport", [("url", Text.Quoted.quote u), ("message", Text.Quoted.quote c.message),
        ("source", match c.chain with
          | [] => "None"
          | m :: _ => "Some(" ++ Text.Quoted.quote m ++ ")")]⟩
    | .status u n => ⟨"Status", [("url", Text.Quoted.quote u), ("status", toString n)]⟩
    | .emptyBody u n => ⟨"EmptyBody", [("url", Text.Quoted.quote u), ("status", toString n)]⟩
    | .decode u r => ⟨"Decode", [("url", Text.Quoted.quote u), ("source", r.shown)]⟩

end CallFailure

/-- What stopped a resolution, or one of its two lookups. -/
inductive LookupFailure
  | flow (cause : CallFailure)
  | clusters (cause : CallFailure)
  | misconfigured (reason : Misconfiguration)
  | clusterNotFound (bucket identifier : String)
  deriving DecidableEq, Repr

namespace LookupFailure

def call? : LookupFailure → Option CallFailure
  | .flow e => some e
  | .clusters e => some e
  | _ => none

def status? (e : LookupFailure) : Option UInt16 := e.call?.bind CallFailure.status?

def message : LookupFailure → String
  | .flow e => "failed to get the api flow: " ++ e.message
  | .clusters e => "failed to get the api bucket clusters: " ++ e.message
  | .misconfigured m => "misconfiguration: " ++ m.message
  | .clusterNotFound bucket identifier => "cluster " ++ identifier ++ " not found in bucket " ++ bucket

/-- The causes below a lookup failure, outermost first. -/
def chain (e : LookupFailure) : List String :=
  match e.call? with
  | some c => c.message :: c.chain
  | none => []

/-- The failure for a reader, with all its parts. -/
def shown : LookupFailure → String
  | .flow e => "FlowLookup(" ++ e.shown ++ ")"
  | .clusters e => "BucketClustersLookup(" ++ e.shown ++ ")"
  | .misconfigured m => "Configuration(" ++ Text.Quoted.quote m.message ++ ")"
  | .clusterNotFound bucket identifier =>
    (Text.Listing.mk "ClusterNotFound"
      [("bucket", Text.Quoted.quote bucket), ("identifier", Text.Quoted.quote identifier)]).inline

end LookupFailure
end FlowCluster
