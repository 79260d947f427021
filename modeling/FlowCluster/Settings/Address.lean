import FlowCluster.Failure
import FlowCluster.Url.Percent

/-! # Addresses of the directories

The address of a flow and that of a bucket's clusters. An id becomes one segment of the path: it is percent
encoded, and the three ids that no segment can carry are refused. -/

namespace FlowCluster

namespace Settings

/-- The path segment of an id. An empty segment would vanish, and one or two dots would be resolved away. -/
def segment (host id : String) : Except CallFailure String :=
  if id = "" ∨ id = "." ∨ id = ".." then
    .error (.request host (Text.Quoted.quote id ++ " is not a valid path segment"))
  else .ok (String.ofList (Url.Percent.encode (Text.Utf8.encode id)))

/-- What stands before the segment in the address of a flow. -/
def flowBase (s : Settings) : String := s.scheme ++ "://" ++ s.flowHost ++ "/flows/"

/-- What stands before the segment in the address of a bucket's clusters. -/
def bucketBase (s : Settings) : String := s.scheme ++ "://" ++ s.clusterHost ++ "/api/bucket/"

def flowUrl (s : Settings) (flow : String) : Except CallFailure String := do
  let seg ← segment s.flowHost flow
  return s.flowBase ++ seg

/-- The address of the clusters of a bucket. -/
def bucketUrl (s : Settings) (bucket : String) : Except CallFailure String := do
  let seg ← segment s.clusterHost bucket
  return s.bucketBase ++ seg ++ "/clusters"

end Settings
end FlowCluster
