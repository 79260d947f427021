import FlowCluster.Json.Skip

/-! # Records of a document

A layout says which fields a record has and how each is read. A record may be written as an object, with its
fields by name in any order, or as a list, with its fields by position; fields that are not written keep their
blank value. Both forms use the same readers of the same fields. Unknown names are skipped, and no known name may
come twice. -/

namespace FlowCluster.Json

/-- A field of a record: its name, and a reader whose result puts the value into the record. -/
structure Field (σ : Type) where
  name : String
  decoder : Decoder (σ → σ)

/-- The shape of a record. -/
structure Layout (σ : Type) where
  title : String
  blank : σ
  fields : List (Field σ)

/-- The fault of a value of another kind than `expected` that begins with `b`: a value without parts is read
first, and its own faults win. -/
def mismatch (expected : String) (b : UInt8) (r : Bytes) : Fault :=
  if b = '['.toUInt8 then .before (b :: r) (.wrongType .list expected)
  else if b = '\x7b'.toUInt8 then .before (b :: r) (.wrongType .object expected)
  else
    match scalar b r with
    | .error f => f
    | .ok (x, q) => .before q.bytes (.wrongType (.scalar x) expected)

def text : Decoder String := fun _ s =>
  match content s with
  | ⟨[], _⟩ => .error (.before [] .endInValue)
  | ⟨b :: r, h⟩ =>
    if b = '"'.toUInt8 then
      match string r with
      | .error f => .error f
      | .ok (t, q) => .ok (t, q.widen (length_le_of_cons_le h))
    else .error (mismatch "a string" b r)

/-- Reads `null` as the blank value, and all else with the given reader. -/
def orNull {α : Type} (blank : α) (decoder : Decoder α) : Decoder α := fun depth s =>
  match content s with
  | ⟨[], _⟩ => .error (.before [] .endInValue)
  | ⟨b :: r, h⟩ =>
    if b = 'n'.toUInt8 then
      match word (Text.Utf8.encode "ull") r with
      | .error f => .error f
      | .ok t => .ok (blank, ⟨t.bytes, Nat.lt_of_le_of_lt t.within h⟩)
    else
      match decoder depth (b :: r) with
      | .error f => .error f
      | .ok (x, q) => .ok (x, q.widen h)

/-- Reads a list of values of one kind. -/
def list {α : Type} (item : Decoder α) : Decoder (List α) := fun depth s =>
  match content s with
  | ⟨[], _⟩ => .error (.before [] .endInValue)
  | ⟨b :: r, h⟩ =>
    if b = '['.toUInt8 then
      match depth with
      | 0 => .error (.past (b :: r) .tooDeep)
      | d + 1 =>
        match items (item d) r [] true r (length_le_self r) with
        | .error f => .error f
        | .ok (xs, q) => .ok (xs, q.widen (length_le_of_cons_le h))
    else .error (mismatch "a sequence" b r)

/-- The bytes unread after white space and, if it comes next, the bracket that closes an object. -/
def afterObject (s : Bytes) : Bytes :=
  match skipBlank s with
  | [] => []
  | b :: r => if b = '\x7d'.toUInt8 then r else b :: r

namespace Layout

variable {σ : Type}

def field? (l : Layout σ) (name : String) : Option (Field σ) := l.fields.find? fun f => f.name == name

/-- Reads fields by name up to the closing bracket. `taken` holds the names that have come so far. -/
def named (l : Layout σ) (depth : Nat) (origin : Bytes) (taken : List String) (record : σ) (first : Bool)
    (s : Bytes) (h : s.length ≤ origin.length) : Except Fault (σ × Rest origin) :=
  match objectTurn first s with
  | .error f => .error f
  | .ok (.closed r) => .ok (record, r.widen h)
  | .ok (.item t) =>
    match string t.bytes with
    | .error f => .error f
    | .ok (key, k) =>
      match l.field? key with
      | none =>
        match colon k.bytes with
        | .error f => .error f
        | .ok c =>
          match skip c.bytes with
          | .error f => .error f
          | .ok r =>
            have hr : r.bytes.length < s.length :=
              Nat.lt_of_lt_of_le (Nat.lt_trans r.shorter (Nat.lt_trans c.shorter k.shorter)) t.within
            named l depth origin taken record false r.bytes (Nat.le_trans (Nat.le_of_lt hr) h)
      | some field =>
        if field.name ∈ taken then .error (.before (afterObject k.bytes) (.repeatedField field.name))
        else
          match colon k.bytes with
          | .error f => .error f
          | .ok c =>
            match field.decoder depth c.bytes with
            | .error f => .error f
            | .ok (put, r) =>
              have hr : r.bytes.length < s.length :=
                Nat.lt_of_lt_of_le (Nat.lt_trans r.shorter (Nat.lt_trans c.shorter k.shorter)) t.within
              named l depth origin (field.name :: taken) (put record) false r.bytes
                (Nat.le_trans (Nat.le_of_lt hr) h)
termination_by s.length

/-- Reads fields by position up to the closing bracket; there may be fewer values than fields, but not more. -/
def positional (depth : Nat) (origin : Bytes) : (fields : List (Field σ)) → (record : σ) → (first : Bool) →
    (s : Bytes) → (h : s.length ≤ origin.length) → Except Fault (σ × Rest origin)
  | [], record, _, s, h =>
    match listEnd s with
    | .error f => .error f
    | .ok r => .ok (record, r.widen h)
  | field :: fields, record, first, s, h =>
    match listTurn first s with
    | .error f => .error f
    | .ok (.closed r) => .ok (record, r.widen h)
    | .ok (.item t) =>
      match field.decoder depth t.bytes with
      | .error f => .error f
      | .ok (put, r) =>
        positional depth origin fields (put record) false r.bytes (t.length_rest_le r h)

def decoder (l : Layout σ) : Decoder σ := fun depth s =>
  match content s with
  | ⟨[], _⟩ => .error (.before [] .endInValue)
  | ⟨b :: r, h⟩ =>
    if b = '['.toUInt8 then
      match depth with
      | 0 => .error (.past (b :: r) .tooDeep)
      | d + 1 =>
        match positional d r l.fields l.blank true r (length_le_self r) with
        | .error f => .error f
        | .ok (x, q) => .ok (x, q.widen (length_le_of_cons_le h))
    else if b = '\x7b'.toUInt8 then
      match depth with
      | 0 => .error (.past (b :: r) .tooDeep)
      | d + 1 =>
        match named l d r [] l.blank true r (length_le_self r) with
        | .error f => .error f
        | .ok (x, q) => .ok (x, q.widen (length_le_of_cons_le h))
    else .error (mismatch ("struct " ++ l.title) b r)

end Layout

namespace Field

variable {σ α : Type}

/-- A field whose value is read by a decoder and put in by a function. -/
def of (name : String) (decoder : Decoder α) (put : α → σ → σ) : Field σ where
  name := name
  decoder := fun depth s =>
    match decoder depth s with
    | .error f => .error f
    | .ok (x, r) => .ok (put x, r)

/-- A text field, blank when it is null. -/
def nullableText (name : String) (put : String → σ → σ) : Field σ := of name (orNull "" text) put

end Field

/-- The greatest number of brackets open at once in values that are read. -/
def depthLimit : Nat := 127

/-- Reads a whole document: one value, with nothing but white space around it. -/
def read {α : Type} (decoder : Decoder α) (document : Bytes) : Except Rejection α :=
  match decoder depthLimit document with
  | .error f => .error (f.locate document)
  | .ok (x, r) =>
    match skipBlank r.bytes with
    | [] => .ok x
    | rest => .error ((Fault.past rest .trailingCharacters).locate document)

end FlowCluster.Json
