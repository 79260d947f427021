import FlowCluster.Json.Value

/-! # Values nobody asked for

A value that is skipped is scanned to its end and not kept. Brackets still open are held in a list, so nesting
has no limit. -/

namespace FlowCluster.Json

inductive Bracket
  | list
  | object
  deriving DecidableEq, Repr

namespace Bracket

def closing : Bracket → UInt8
  | .list => ']'.toUInt8
  | .object => '\x7d'.toUInt8

/-- The problem of a document that ends inside a bracket. -/
def ended : Bracket → Problem
  | .list => .endInList
  | .object => .endInObject

/-- The problem of an item that is followed by neither a comma nor the closing bracket. -/
def unseparated : Bracket → Problem
  | .list => .noListSeparator
  | .object => .noObjectSeparator

end Bracket

/-- Where a scan stands: before a value, before a key, or after a value. -/
inductive Place
  | value
  | key
  | after
  deriving DecidableEq, Repr

/-- The least number of bytes read when a place is reached from the start of a value. -/
def Place.spent : Place → Nat
  | .after => 1
  | _ => 0

/-- Where the first item inside a bracket, or one after a comma, begins. -/
def Bracket.itemPlace : Bracket → Place
  | .list => .value
  | .object => .key

/-- Passes over a value without parts that begins with `b`. -/
def skipScalar (b : UInt8) (r : Bytes) : Except Fault (Rest (b :: r)) :=
  if b = 'n'.toUInt8 then
    match word (Text.Utf8.encode "ull") r with
    | .error f => .error f
    | .ok t => .ok ⟨t.bytes, t.length_lt_cons b⟩
  else if b = 't'.toUInt8 then
    match word (Text.Utf8.encode "rue") r with
    | .error f => .error f
    | .ok t => .ok ⟨t.bytes, t.length_lt_cons b⟩
  else if b = 'f'.toUInt8 then
    match word (Text.Utf8.encode "alse") r with
    | .error f => .error f
    | .ok t => .ok ⟨t.bytes, t.length_lt_cons b⟩
  else if b = '"'.toUInt8 then
    match skipString r r (length_le_self r) with
    | .error f => .error f
    | .ok q => .ok (q.widen (length_le_cons b r))
  else if beginsNumeral b then
    match Numeral.read .badNumber (b :: r) with
    | .error f => .error f
    | .ok (_, q) => .ok q
  else .error (.past (b :: r) .noValue)

def opening? (b : UInt8) : Option Bracket :=
  if b = '['.toUInt8 then some .list else if b = '\x7b'.toUInt8 then some .object else none

/-- Passes over what is left of a value, standing at a place inside the open brackets, innermost first. -/
def skipFrom (origin : Bytes) (place : Place) (open_ : List Bracket) (s : Bytes)
    (h : s.length + place.spent ≤ origin.length) : Except Fault (Rest origin) :=
  match place with
  | .value =>
    match content s with
    | ⟨[], _⟩ => .error (.before [] .endInValue)
    | ⟨b :: r, hs⟩ =>
      have hr : r.length + 1 ≤ origin.length := Nat.le_trans hs h
      match opening? b with
      | some k =>
        match content r with
        | ⟨[], _⟩ => .error (.before [] k.ended)
        | ⟨c :: q, hq⟩ =>
          if c = k.closing then
            skipFrom origin .after open_ q (Nat.le_trans hq (Nat.le_of_lt hr))
          else
            skipFrom origin k.itemPlace (k :: open_) r (by cases k <;> exact Nat.le_of_lt hr)
      | none =>
        match skipScalar b r with
        | .error f => .error f
        | .ok q => skipFrom origin .after open_ q.bytes (Nat.le_trans q.shorter hr)
  | .key =>
    match content s with
    | ⟨[], _⟩ => .error (.before [] .endInObject)
    | ⟨b :: r, hs⟩ =>
      if b = '"'.toUInt8 then
        match skipString r r (length_le_self r) with
        | .error f => .error f
        | .ok q =>
          match colon q.bytes with
          | .error f => .error f
          | .ok c =>
            have hc : c.bytes.length < s.length := Nat.lt_trans c.shorter (Nat.lt_trans q.shorter hs)
            skipFrom origin .value open_ c.bytes (Nat.le_trans (Nat.le_of_lt hc) h)
      else .error (.past (b :: r) .keyNotString)
  | .after =>
    match open_ with
    | [] => .ok ⟨s, h⟩
    | k :: outer =>
      match content s with
      | ⟨[], _⟩ => .error (.before [] k.ended)
      | ⟨b :: r, hs⟩ =>
        have hr : r.length + 1 ≤ origin.length := Nat.le_trans hs (Nat.le_of_lt h)
        if b = ','.toUInt8 then
          skipFrom origin k.itemPlace (k :: outer) r (by cases k <;> exact Nat.le_of_lt hr)
        else if b = k.closing then skipFrom origin .after outer r hr
        else .error (.past (b :: r) k.unseparated)
termination_by s.length
decreasing_by
  · exact Nat.lt_of_lt_of_le (Nat.lt_of_lt_of_le (Nat.lt_succ_self _) hq) (Nat.le_of_lt hs)
  · exact hs
  · exact Nat.lt_of_lt_of_le q.shorter hs
  · exact hc
  · exact hs
  · exact hs

/-- Passes over any value. -/
def skip (s : Bytes) : Except Fault (Rest s) := skipFrom s .value [] s (Nat.le_refl _)

end FlowCluster.Json
