import FlowCluster.Failure
import FlowCluster.Url.Basic

/-! # Networks

What a request meets on its way: no server, a server that is lost before it begins an answer, or one that begins it. A
server answers by what it is asked for alone. The network can fail at any time and for any reason, also while the body
of an answer is on its way. -/

namespace FlowCluster.Http

/-- An answer from where its head has come; the body may break off. A status that only announces another answer is none
to end a request, but for the one that gives the connection over to another protocol. -/
structure Reply where
  status : UInt16
  body : Bytes
  broken : Option NetworkFault
  final : status = 101 ∨ 200 ≤ status ∧ status ≤ 999
  deriving DecidableEq, Repr

namespace Reply

/-- Answers of three statuses have no body, whatever is announced. -/
def isBodiless (r : Reply) : Bool := r.status == 101 || r.status == 204 || r.status == 304

/-- The body that arrives, if it arrives whole. -/
def received (r : Reply) : Except NetworkFault Bytes :=
  if r.isBodiless then .ok []
  else
    match r.broken with
    | none => .ok r.body
    | some fault => .error fault

end Reply

/-- Replies by what is asked for. The first reply for it counts. -/
structure Server where
  replies : List (String × Reply)
  deriving DecidableEq, Repr

namespace Server

/-- The reply where there is none. -/
def missing : Reply := ⟨404, Text.Utf8.encode "no route", none, by decide⟩

def reply (s : Server) (target : String) : Reply :=
  ((s.replies.find? fun r => r.1 == target).map Prod.snd).getD missing

end Server

/-- What there is at the other end of a connection. A connection can come about and be lost before an answer begins;
then the request may have been seen or not. -/
inductive Reach
  | closed (fault : NetworkFault)
  | dropped (sighted : Bool) (fault : NetworkFault)
  | connected (server : Server)
  deriving DecidableEq, Repr

/-- A network leads from an address to whatever is there. -/
abbrev Network := Url → Reach

/-- The network that leads nowhere. -/
def Network.down : Network := fun u => .closed (.unreachable u.text)

/-- What a server sees of a request. -/
structure Sighting where
  line : String
  apiKey : String
  userAgent : Option String
  deriving DecidableEq, Repr

end FlowCluster.Http
