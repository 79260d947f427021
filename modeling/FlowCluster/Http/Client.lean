import FlowCluster.Exchange
import FlowCluster.Http.Network
import FlowCluster.Url.Read

/-! # Clients

Sends requests over a network. An address that cannot be read, or a key that cannot be sent, is noticed before
anything is sent. Every failure to send is reported, up to the head of the answer; a body that breaks off is not,
because by then the request has been answered. No failure carries the key. -/

namespace FlowCluster.Http

/-- Why a request cannot be sent at all. -/
inductive Refusal
  | badAddress
  | badKey
  | unsuitable (url : String)
  deriving DecidableEq, Repr

def Refusal.message : Refusal → String
  | .badAddress => "builder error"
  | .badKey => "builder error"
  | .unsuitable url => "builder error for url (" ++ url ++ ")"

/-- A key may hold anything but control characters, and of these the tab. -/
def isSendable (key : String) : Bool :=
  key.toList.all fun c => c == '\t' || (0x20 ≤ c.toNat && c.toNat != 0x7F)

/-- The schemes that are spoken. -/
def isSpoken (scheme : List Char) : Bool := scheme == "http".toList || scheme == "https".toList

/-- The length of an address that a request can have at most. -/
def longest : Nat := 65534

/-- Characters that the name of a host may hold, and that have no place in a request. -/
def isMisplaced (c : Char) : Bool := ['"', '\x60', '\x7b', '\x7d'].contains c

/-- Whether a request can have an address. -/
def isRequestable (u : Url) : Bool :=
  u.chars.length ≤ longest &&
    match u.host with
    | some (.name cs) => !cs.any isMisplaced
    | _ => true

/-- Where a request goes to. The address is looked at before the key, its scheme and what it may hold after it. -/
def destination (r : Request) : Except Refusal Url :=
  match Url.read? r.url with
  | none => .error .badAddress
  | some u =>
    if !u.hasHost then .error (.unsuitable u.text)
    else if !isSendable r.apiKey then .error .badKey
    else if isSpoken u.scheme && isRequestable u then .ok u
    else .error (.unsuitable u.text)

/-- A client, by the name it gives to servers. -/
structure Client where
  userAgent : Option String
  deriving DecidableEq, Repr

namespace Client

/-- The client that tells its name. -/
def named : Client := ⟨some "cluster-resolver/0.1.0"⟩

/-- The client without a name. -/
def anonymous : Client := ⟨none⟩

/-- What a server sees of a request for `u`. -/
def sighting (c : Client) (u : Url) (apiKey : String) : Sighting :=
  ⟨"GET " ++ u.target ++ " HTTP/1.1", apiKey, c.userAgent⟩

/-- A request that is not sent, which is reported. -/
def notSent (url message : String) : Attempt Sighting CallFailure Response :=
  ⟨.error (.request url message), [], [.sendingFailed url message]⟩

/-- A request that the network brings no answer to, which is reported too. -/
def unanswered (url : String) (seen : List Sighting) (fault : NetworkFault) :
    Attempt Sighting CallFailure Response :=
  ⟨.error (.transport url (.network fault)), seen, [.sendingFailed url fault.message]⟩

/-- An exchange with a server. The answer bears the address of the request as it was given. -/
def exchange (c : Client) (server : Server) (u : Url) (r : Request) : Attempt Sighting CallFailure Response :=
  let reply := server.reply u.target
  let result :=
    match reply.received with
    | .ok body => .ok ⟨r.url, reply.status, some body⟩
    | .error fault => .error (.transport r.url (.network fault))
  ⟨result, [c.sighting u r.apiKey], []⟩

def fetch (c : Client) (n : Network) (r : Request) : Attempt Sighting CallFailure Response :=
  match destination r with
  | .error x => notSent r.url x.message
  | .ok u =>
    match n u with
    | .closed fault => unanswered r.url [] fault
    | .dropped sighted fault => unanswered r.url (if sighted then [c.sighting u r.apiKey] else []) fault
    | .connected server => c.exchange server u r

/-- A client on a network as a transport. -/
def transport (c : Client) (n : Network) : Transport Sighting where
  fetch := c.fetch n

end Client
end FlowCluster.Http
