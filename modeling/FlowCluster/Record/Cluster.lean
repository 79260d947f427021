import FlowCluster.Json.Layout
import FlowCluster.Json.Written
import FlowCluster.Settings.Basic

/-! # Clusters

A cluster registered under a bucket, with the credentials to reach it. The password leaves the program only where
it is asked for. -/

namespace FlowCluster

/-- A cluster as the cluster directory knows it. -/
structure Cluster where
  identifier : String
  address : String
  version : String
  username : String
  password : String
  kind : String
  deriving DecidableEq, Repr

namespace Cluster

/-- The cluster that says nothing, which stands for no match. -/
def blank : Cluster := ⟨"", "", "", "", "", ""⟩

instance : Inhabited Cluster := ⟨blank⟩

def isBlank (c : Cluster) : Bool := c == blank

/-- A copy without the password; that there is none stays visible. -/
def redacted (c : Cluster) : Cluster :=
  if c.password = "" then c else { c with password := redaction }

/-- How a cluster is written in a document. -/
def layout : Json.Layout Cluster where
  title := "ClusterRecord"
  blank := blank
  fields := [
    .nullableText "identifier" fun x c => { c with identifier := x },
    .nullableText "address" fun x c => { c with address := x },
    .nullableText "version" fun x c => { c with version := x },
    .nullableText "username" fun x c => { c with username := x },
    .nullableText "password" fun x c => { c with password := x },
    .nullableText "type" fun x c => { c with kind := x }]

def decoder : Json.Decoder Cluster := layout.decoder

/-- A cluster as a value of a document. -/
def toValue (c : Cluster) : Json.Value :=
  .object [("identifier", .text c.identifier), ("address", .text c.address), ("version", .text c.version),
    ("username", .text c.username), ("password", .text c.password), ("type", .text c.kind)]

/-- What a list of clusters shows of each: no credentials. -/
def summary (c : Cluster) : Json.Value :=
  .object [("identifier", .text c.identifier), ("address", .text c.address), ("type", .text c.kind)]

/-- The cluster for a reader, with the password hidden whether there is one or not. -/
def listing (c : Cluster) : Text.Listing where
  title := "ClusterRecord"
  entries := [
    ("identifier", Text.Quoted.quote c.identifier),
    ("address", Text.Quoted.quote c.address),
    ("version", Text.Quoted.quote c.version),
    ("username", Text.Quoted.quote c.username),
    ("password", Text.Quoted.quote redaction),
    ("cluster_type", Text.Quoted.quote c.kind)]

end Cluster
end FlowCluster
