import FlowCluster.Text.Basic

/-! # Hosts that are numbers

Addresses of 32 and of 128 bits, as they are read and as they are written. -/

/-! ## Addresses of 32 bits

Up to four numbers between dots, each in base ten, eight or sixteen; the last one fills whatever the others leave
free. The text of an address has four numbers in base ten. -/

namespace FlowCluster.Url.Ipv4

/-- The base that a number announces, and its digits. -/
def base : List Char → Nat × List Char
  | '0' :: 'x' :: r => (16, r)
  | '0' :: 'X' :: r => (16, r)
  | '0' :: c :: r => (8, c :: r)
  | cs => (10, cs)

/-- The number that digits write after those worth `n`. No digits add nothing. -/
def digits? (base n : Nat) : List Char → Option Nat
  | [] => some n
  | c :: r =>
    match Text.Hex.value? c with
    | some d => if d < base then digits? base (n * base + d) r else none
    | none => none

/-- One of the numbers. -/
def number? (cs : List Char) : Option Nat :=
  if cs.isEmpty then none else digits? (base cs).1 0 (base cs).2

/-- The texts between the dots; a dot may end them. -/
def fields (cs : List Char) : List (List Char) :=
  let ps := Text.parts (· == '.') cs
  if ps.length > 1 ∧ ps.getLast? = some [] then ps.dropLast else ps

/-- A name whose last field is a number can be nothing but an address. -/
def isNumeric (cs : List Char) : Bool :=
  match (fields cs).getLast? with
  | some f => (!f.isEmpty && f.all Char.isDigit) || (number? f).isSome
  | none => false

/-- The address of some numbers, after those worth `high` in `used` fields. -/
def assemble? (high used : Nat) : List Nat → Option Nat
  | [] => none
  | [n] => if n < Nat.pow 256 (4 - used) then some (high * Nat.pow 256 (4 - used) + n) else none
  | n :: ns => if n < 256 then assemble? (high * 256 + n) (used + 1) ns else none

def read? (cs : List Char) : Option Nat := do
  let fs := fields cs
  if fs.length > 4 then none
  assemble? 0 0 (← fs.mapM number?)

def chars (n : Nat) : List Char :=
  Nat.toDigits 10 (n / 16777216) ++ '.' :: (Nat.toDigits 10 (n / 65536 % 256) ++
    '.' :: (Nat.toDigits 10 (n / 256 % 256) ++ '.' :: Nat.toDigits 10 (n % 256)))

end FlowCluster.Url.Ipv4

/-! ## Addresses of 128 bits

Eight groups of up to four digits in base sixteen. Two colons stand for as many zero groups as are missing, and the
last two groups may be written as four numbers between dots. The text of an address has two colons in place of its
longest run of zero groups. -/

namespace FlowCluster.Url.Ipv6

/-- A number below 256 in base ten, without leading zeros. -/
def byte? (cs : List Char) : Option Nat :=
  if cs.isEmpty ∨ !cs.all Char.isDigit ∨ cs.length > 3 ∨ (cs.length > 1 ∧ cs.head? = some '0') then none
  else
    let n := cs.foldl (fun n c => n * 10 + (c.toNat - 0x30)) 0
    if n < 256 then some n else none

/-- The two groups that four numbers between dots stand for. -/
def dotted? (cs : List Char) : Option (List Nat) :=
  match Text.parts (· == '.') cs with
  | [a, b, c, d] => do return [(← byte? a) * 256 + (← byte? b), (← byte? c) * 256 + (← byte? d)]
  | _ => none

/-- One group. -/
def group? (cs : List Char) : Option Nat :=
  if cs.isEmpty ∨ cs.length > 4 then none
  else Text.Hex.number? cs

/-- The groups between colons. Those at the very end may close with numbers between dots. -/
def groups? (atEnd : Bool) : List (List Char) → Option (List Nat)
  | [] => some []
  | [p] => if atEnd && p.contains '.' then dotted? p else (group? p).map fun g => [g]
  | p :: ps => do return (← group? p) :: (← groups? atEnd ps)

/-- The groups on one side of two colons, perhaps none. -/
def side? (atEnd : Bool) (cs : List Char) : Option (List Nat) :=
  if cs.isEmpty then some [] else groups? atEnd (Text.parts (· == ':') cs)

/-- What stands on both sides of the first two colons in a row. -/
def cutAtGap : List Char → Option (List Char × List Char)
  | ':' :: ':' :: r => some ([], r)
  | c :: r => (cutAtGap r).map fun (a, b) => (c :: a, b)
  | [] => none

def read? (cs : List Char) : Option (List Nat) :=
  match cutAtGap cs with
  | none => (groups? true (Text.parts (· == ':') cs)).filter fun gs => gs.length == 8
  | some (a, b) => do
    let left ← side? false a
    let right ← side? true b
    if left.length + right.length < 8 then
      some (left ++ List.replicate (8 - left.length - right.length) 0 ++ right)
    else none

/-- How many zero groups stand at the front. -/
def zeros (gs : List Nat) : Nat := (gs.takeWhile (· == 0)).length

/-- Where the first longest run of zero groups is, and its length; no run is shorter than two. -/
def gap? (gs : List Nat) : Option (Nat × Nat) :=
  (List.range gs.length).foldl (fun best i =>
    let n := zeros (gs.drop i)
    if n > (best.map Prod.snd).getD 1 then some (i, n) else best) none

/-- Groups between colons. -/
def groupChars (gs : List Nat) : List Char :=
  [':'].intercalate (gs.map fun g => Nat.toDigits 16 g)

def chars (gs : List Nat) : List Char :=
  match gap? gs with
  | none => groupChars gs
  | some (i, n) => groupChars (gs.take i) ++ ':' :: ':' :: groupChars (gs.drop (i + n))

end FlowCluster.Url.Ipv6
