import FlowCluster.Json.Layout
import FlowCluster.Json.Written

/-! # Flows and their teams

A flow belongs to a team, and the team's bucket is what the cluster lookup needs. The payloads of a flow are kept
as they come. -/

namespace FlowCluster

/-- The team that owns a flow. -/
structure Team where
  bucket : String
  slug : String
  name : String
  deriving DecidableEq, Repr

namespace Team

def blank : Team := ⟨"", "", ""⟩

/-- How a team is written in a document. -/
def layout : Json.Layout Team where
  title := "TeamDescriptor"
  blank := blank
  fields := [
    .nullableText "bucket_uuid" fun x t => { t with bucket := x },
    .nullableText "slug" fun x t => { t with slug := x },
    .nullableText "name" fun x t => { t with name := x }]

def decoder : Json.Decoder Team := layout.decoder

/-- A team as a value of a document. -/
def toValue (t : Team) : Json.Value :=
  .object [("bucket_uuid", .text t.bucket), ("slug", .text t.slug), ("name", .text t.name)]

end Team

/-- A flow as the flow directory knows it. -/
structure Flow where
  uuid : String
  team : Team
  configuration : Json.Value
  pipelines : Json.Value
  repository : Json.Value
  user : Json.Value
  deriving Repr

namespace Flow

def blank : Flow := ⟨"", .blank, .null, .null, .null, .null⟩

def bucket (f : Flow) : String := f.team.bucket

/-- How a flow is written in a document. -/
def layout : Json.Layout Flow where
  title := "FlowRecord"
  blank := blank
  fields := [
    .nullableText "uuid" fun x f => { f with uuid := x },
    .of "team" (Json.orNull .blank Team.decoder) fun x f => { f with team := x },
    .of "configuration" Json.value fun x f => { f with configuration := x },
    .of "pipelines" Json.value fun x f => { f with pipelines := x },
    .of "repository" Json.value fun x f => { f with repository := x },
    .of "user" Json.value fun x f => { f with user := x }]

def decoder : Json.Decoder Flow := layout.decoder

/-- A flow as a value of a document. -/
def toValue (f : Flow) : Json.Value :=
  .object [("uuid", .text f.uuid), ("team", f.team.toValue), ("configuration", f.configuration),
    ("pipelines", f.pipelines), ("repository", f.repository), ("user", f.user)]

end Flow
end FlowCluster
