import FlowCluster.Url.Domain.Name
import FlowCluster.Url.Ip
import FlowCluster.Url.Percent

/-! # Addresses and their hosts

The parts of an address, of which the host is read first. -/

/-! ## Hosts

A host is a name or an address of one of two sizes. In the special schemes a name is read without regard to case and in
any script, and it may not look like an address without being one; in all others it is kept as it is written. -/

namespace FlowCluster.Url

/-- Where a service is. The name may be empty. -/
inductive Host
  | name (name : List Char)
  | ipv4 (address : Nat)
  | ipv6 (groups : List Nat)
  deriving DecidableEq, Repr

namespace Host

def chars : Host → List Char
  | .name cs => cs
  | .ipv4 n => Ipv4.chars n
  | .ipv6 gs => '[' :: (Ipv6.chars gs ++ [']'])

/-- A name of a special scheme, or the address that it writes. -/
def ofName? (cs : List Char) : Option Host :=
  match Domain.ofBytes? (Percent.decode cs) with
  | none | some [] => none
  | some text => if Ipv4.isNumeric text then (Ipv4.read? text).map .ipv4 else some (.name text)

/-- A name of another scheme. -/
def ofPlain? (cs : List Char) : Option Host :=
  if cs.any Domain.isReserved then none
  else some (.name (Percent.escape (fun c => 0x20 ≤ c.toNat && c.toNat < 0x7F) cs))

/-- Reads a host. An address of 128 bits stands between square brackets. -/
def read? (special : Bool) (cs : List Char) : Option Host :=
  match cs with
  | '[' :: r => if r.getLast? = some ']' then (Ipv6.read? r.dropLast).map .ipv6 else none
  | _ => if special then ofName? cs else ofPlain? cs

end Host
end FlowCluster.Url

/-! ## Addresses of documents

The parts of an absolute address. Credentials in front of a host are not among them: they are never part of what is
asked for or shown. -/

namespace FlowCluster

namespace Url

/-- The path of an address: segments, each after a slash, or a text that is not cut any further. -/
inductive Path
  | segments (segments : List (List Char))
  | plain (text : List Char)
  deriving DecidableEq, Repr

def Path.chars : Path → List Char
  | .segments ss => ss.flatMap ('/' :: ·)
  | .plain t => t

end Url

/-- An absolute address. A host that is not there is not the same as an empty one. -/
structure Url where
  scheme : List Char
  host : Option Url.Host
  port : Option Nat
  path : Url.Path
  query : Option (List Char)
  fragment : Option (List Char)
  deriving DecidableEq, Repr

namespace Url

/-- A mark and what follows it, or nothing. -/
def marked (mark : Char) : Option (List Char) → List Char
  | some cs => mark :: cs
  | none => []

/-- The host and the port, after two slashes. Without a host, a path that would look like one is kept apart. -/
def authorityChars (u : Url) : List Char :=
  match u.host, u.path with
  | some h, _ => '/' :: '/' :: (h.chars ++ marked ':' (u.port.map (Nat.toDigits 10)))
  | none, .segments ([] :: _ :: _) => ['/', '.']
  | none, _ => []

/-- The path and the query, which is what a server is asked for. -/
def targetChars (u : Url) : List Char := u.path.chars ++ marked '?' u.query

def chars (u : Url) : List Char :=
  u.scheme ++ ':' :: (u.authorityChars ++ u.targetChars ++ marked '#' u.fragment)

/-- What a server is asked for, as a text. -/
def target (u : Url) : String := String.ofList u.targetChars

def text (u : Url) : String := String.ofList u.chars

/-- Whether there is a host that is not empty. -/
def hasHost (u : Url) : Bool :=
  match u.host with
  | none => false
  | some (.name []) => false
  | some _ => true

end Url
end FlowCluster
