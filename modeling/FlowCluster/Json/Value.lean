import FlowCluster.Json.Numeral
import FlowCluster.Json.Text

/-! # Values of a document

A document of no particular shape. Objects hold each key once, in the order of the keys; of several members with
one key the last is kept. -/

namespace FlowCluster.Json

inductive Value
  | scalar (value : Scalar)
  | list (items : List Value)
  | object (members : List (String × Value))
  deriving Repr

namespace Value

def null : Value := .scalar .null

def text (s : String) : Value := .scalar (.text s)

instance : Inhabited Value := ⟨null⟩

/-- Puts a member into members in order of their keys, in place of one with the same key. -/
def insert (key : String) (value : Value) : List (String × Value) → List (String × Value)
  | [] => [(key, value)]
  | (k, v) :: rest =>
    if key < k then (key, value) :: (k, v) :: rest
    else if key = k then (key, value) :: rest
    else (k, v) :: insert key value rest

end Value

/-- Whether a numeral can begin with a byte. -/
def beginsNumeral (b : UInt8) : Bool := b == '-'.toUInt8 || Numeral.isDigit b

/-- Reads a value without parts that begins with `b`, which is no bracket. -/
def scalar (b : UInt8) (r : Bytes) : Except Fault (Scalar × Rest (b :: r)) :=
  if b = 'n'.toUInt8 then
    match word (Text.Utf8.encode "ull") r with
    | .error f => .error f
    | .ok t => .ok (.null, ⟨t.bytes, t.length_lt_cons b⟩)
  else if b = 't'.toUInt8 then
    match word (Text.Utf8.encode "rue") r with
    | .error f => .error f
    | .ok t => .ok (.boolean true, ⟨t.bytes, t.length_lt_cons b⟩)
  else if b = 'f'.toUInt8 then
    match word (Text.Utf8.encode "alse") r with
    | .error f => .error f
    | .ok t => .ok (.boolean false, ⟨t.bytes, t.length_lt_cons b⟩)
  else if b = '"'.toUInt8 then
    match string r with
    | .error f => .error f
    | .ok (s, q) => .ok (.text s, q.widen (length_le_cons b r))
  else if beginsNumeral b then
    match number (b :: r) with
    | .error f => .error f
    | .ok (n, q) => .ok (.number n, q)
  else .error (.past (b :: r) .noValue)

/-- The members of an object up to its closing bracket, on top of those already `seen`. -/
def members (item : Reader Value) (origin : Bytes) (seen : List (String × Value)) (first : Bool) (s : Bytes)
    (h : s.length ≤ origin.length) : Except Fault (List (String × Value) × Rest origin) :=
  match objectTurn first s with
  | .error f => .error f
  | .ok (.closed r) => .ok (seen, r.widen h)
  | .ok (.item t) =>
    match string t.bytes with
    | .error f => .error f
    | .ok (key, k) =>
      match colon k.bytes with
      | .error f => .error f
      | .ok c =>
        match item c.bytes with
        | .error f => .error f
        | .ok (v, r) =>
          have hr : r.bytes.length < s.length :=
            Nat.lt_of_lt_of_le (Nat.lt_trans r.shorter (Nat.lt_trans c.shorter k.shorter)) t.within
          members item origin (Value.insert key v seen) false r.bytes (Nat.le_trans (Nat.le_of_lt hr) h)
termination_by s.length

def value : Decoder Value := fun depth s =>
  match content s with
  | ⟨[], _⟩ => .error (.before [] .endInValue)
  | ⟨b :: r, h⟩ =>
    if b = '['.toUInt8 then
      match depth with
      | 0 => .error (.past (b :: r) .tooDeep)
      | d + 1 =>
        match items (value d) r [] true r (length_le_self r) with
        | .error f => .error f
        | .ok (xs, q) => .ok (.list xs, q.widen (length_le_of_cons_le h))
    else if b = '\x7b'.toUInt8 then
      match depth with
      | 0 => .error (.past (b :: r) .tooDeep)
      | d + 1 =>
        match members (value d) r [] true r (length_le_self r) with
        | .error f => .error f
        | .ok (ms, q) => .ok (.object ms, q.widen (length_le_of_cons_le h))
    else
      match scalar b r with
      | .error f => .error f
      | .ok (x, q) => .ok (.scalar x, q.widen h)

end FlowCluster.Json
