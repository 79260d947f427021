import FlowCluster.Url.Basic
import FlowCluster.Url.Segment

/-! # Reading an address

Takes an absolute address apart. The schemes of the web are read leniently: slashes lean either way, a host must be
there, and a port that the scheme implies is dropped. Of a path, a query and a fragment the characters that may not
stand there are escaped. -/

namespace FlowCluster.Url

/-- The schemes of the web, which are read leniently. -/
def isSpecial (scheme : List Char) : Bool :=
  ["http", "https", "ws", "wss", "ftp", "file"].any fun s => s.toList == scheme

/-- The port that a scheme implies. -/
def defaultPort? (scheme : List Char) : Option Nat :=
  if scheme = ['h', 't', 't', 'p'] ∨ scheme = ['w', 's'] then some 80
  else if scheme = ['h', 't', 't', 'p', 's'] ∨ scheme = ['w', 's', 's'] then some 443
  else if scheme = ['f', 't', 'p'] then some 21
  else none

/-- Whether a character is dropped at the ends of an address. -/
def isPadding (c : Char) : Bool := c.toNat ≤ 0x20

/-- An address without control characters and spaces at its ends. -/
def strip (cs : List Char) : List Char := ((cs.dropWhile isPadding).reverse.dropWhile isPadding).reverse

/-- Characters of a scheme. The first one must be a letter. -/
def isSchemeChar (c : Char) : Bool := c.isAlphanum || c == '+' || c == '-' || c == '.'

/-- The scheme, in lower case, and what follows its colon. -/
def scheme? (cs : List Char) : Option (List Char × List Char) :=
  if (cs.head?.map Char.isAlpha).getD false then
    let name := cs.takeWhile fun c => isSchemeChar c || isBreak c
    match cs.drop name.length with
    | ':' :: r => some ((joined name).map Char.toLower, r)
    | _ => none
  else none

/-- Characters that stay as they are in a fragment. -/
def staysInFragment (c : Char) : Bool := isVisible c && !"\"<>\x60".toList.contains c

/-- Characters that stay as they are in a query. A special scheme keeps no apostrophe. -/
def staysInQuery (special : Bool) (c : Char) : Bool :=
  isVisible c && !"\"#<>".toList.contains c && !(special && c.toNat == 0x27)

/-- Characters that stay as they are in a path that is not cut. -/
def staysInPlainPath (c : Char) : Bool := 0x20 ≤ c.toNat && c.toNat < 0x7F

/-- The part of an authority before the first colon outside brackets. -/
def beforePort (inside : Bool) : List Char → List Char
  | [] => []
  | c :: r =>
    if c = ':' ∧ !inside then []
    else c :: beforePort (if c = '[' then true else if c = ']' then false else inside) r

/-- A port of 16 bits. No digits are no port, and neither is the port that the scheme implies. -/
def port? (scheme ds : List Char) : Option (Option Nat) :=
  let n := ds.foldl (fun n c => n * 10 + (c.toNat - 0x30)) 0
  if !ds.all Char.isDigit ∨ n > 65535 then none
  else if ds.isEmpty ∨ defaultPort? scheme = some n then some none
  else some (some n)

/-- What an authority says: the host, the port, and a beginning of the path, which a backslash sets off from the
port. -/
structure Authority where
  host : Host
  port : Option Nat
  path : List Char
  deriving DecidableEq, Repr

/-- Whether there may be no host after some credentials, which include the at sign. None there may be after no
credentials, after a colon alone, and where an at sign alone ends the address. -/
def isDispensable (isLast : Bool) : List Char → Bool
  | [] => true
  | ['@'] => isLast
  | [':', '@'] => true
  | _ => false

/-- Reads an authority, which may be the last part of its address. The credentials before the last at sign are left
out. -/
def authority? (scheme : List Char) (isLast : Bool) (cs : List Char) : Option Authority :=
  let place := (cs.reverse.takeWhile (· != '@')).reverse
  let credentials := cs.take (cs.length - place.length)
  let name := beforePort false place
  let rest := place.drop name.length
  if name.isEmpty ∧ (isSpecial scheme ∨ !rest.isEmpty ∨ !isDispensable isLast credentials) then none
  else do
    let host ← Host.read? (isSpecial scheme) name
    let port ← port? scheme ((rest.drop 1).takeWhile (· != '\\'))
    return ⟨host, port, (rest.drop 1).dropWhile (· != '\\')⟩

/-- The host in the address of a file: the own host has no name. -/
def fileHost? (cs : List Char) : Option Host :=
  if cs.isEmpty then some (.name [])
  else (Host.read? true cs).map fun h => if h = .name "localhost".toList then .name [] else h

/-- The host and the path of a file. Empty segments in front of the path are left out. -/
def filePlace (host : Host) (t : Trail) : Host × Path :=
  let kept := t.segments.dropWhile List.isEmpty
  (if t.onDrive then .name [] else host, .segments (if kept.isEmpty then [[]] else kept))

/-- Reads the address of a file after its scheme. Only two slashes announce a host, and then a host without a name
leaves the slash that follows to the path. The letter of a drive is no host. -/
def file? (cs : List Char) : Option (Host × Path) :=
  let slash := isSlash true
  if ((joined cs).take 2).length = 2 ∧ ((joined cs).take 2).all slash then
    let rest := after 2 cs
    let name := joined (rest.takeWhile (!slash ·))
    if (Drive.letter? name).isSome then some (filePlace (.name []) (trail true true rest))
    else do
      let host ← fileHost? name
      let path := rest.dropWhile (!slash ·)
      return filePlace host (trail true true (if host = .name [] then path else path.drop 1))
  else some (filePlace (.name []) (trail true true (withoutSlash true cs)))

/-- The host, the port and the path of an address that goes on with `cs` after its scheme, and perhaps ends with it. -/
def place? (scheme : List Char) (isLast : Bool) (cs : List Char) : Option (Option Host × Option Nat × Path) :=
  let special := isSpecial scheme
  let slash := isSlash special
  if scheme = "file".toList then (file? cs).map fun (host, path) => (some host, none, path)
  else if special then do
    let rest := cs.dropWhile fun c => slash c || isBreak c
    let a ← authority? scheme isLast (joined (rest.takeWhile (!slash ·)))
    return (some a.host, a.port, .segments (segments true (a.path ++ rest.dropWhile (!slash ·))))
  else
    match (joined cs).take 2 with
    | ['/', '/'] => do
      let rest := after 2 cs
      let following := rest.dropWhile (!slash ·)
      let a ← authority? scheme (isLast && following.isEmpty) (joined (rest.takeWhile (!slash ·)))
      let path := a.path ++ following
      return (some a.host, a.port, .segments (if path.isEmpty then [] else segments false path))
    | '/' :: _ => some (none, none, .segments (segments false cs))
    | _ => some (none, none, .plain (Percent.escape staysInPlainPath (joined cs)))

def read? (s : String) : Option Url := do
  let (scheme, rest) ← scheme? (strip s.toList)
  let (rest, fragment) := Text.cutAt '#' rest
  let (rest, query) := Text.cutAt '?' rest
  let (host, port, path) ← place? scheme (query.isNone && fragment.isNone) rest
  return {
    scheme, host, port, path
    query := query.map fun q => Percent.escape (staysInQuery (isSpecial scheme)) (joined q)
    fragment := fragment.map fun f => Percent.escape staysInFragment (joined f) }

end FlowCluster.Url
