import FlowCluster.Decimal.Binary64

/-! # Similar names

How alike two words are: the mean of the share of letters that match in either word and the share of matches that
keep their order. Letters match if they are equal and not too far apart. All shares are rounded to 53 bits. -/

namespace FlowCluster.CommandLine.Similarity

open Decimal

/-- How far apart the places of two letters may be. -/
def reach (a b : List Char) : Nat := max a.length b.length / 2 - 1

/-- The first place from `low` below `high` in `b` that holds `c` and is not taken. -/
def place? (b : List Char) (taken : List Nat) (low high : Nat) (c : Char) : Option Nat :=
  (List.range (min high b.length)).find? fun j => low ≤ j && b[j]? == some c && !taken.contains j

/-- The letters of a word from place `i` on that match, and the places in `b` that they take. -/
def matching (b : List Char) (reach : Nat) (taken : List Nat) (i : Nat) : List Char → List Char × List Nat
  | [] => ([], taken)
  | c :: r =>
    match place? b taken (i - reach) (i + reach + 1) c with
    | some j =>
      let (cs, taken) := matching b reach (j :: taken) (i + 1) r
      (c :: cs, taken)
    | none => matching b reach taken (i + 1) r

/-- The letters of `a` that match in `b`, and the letters of `b` that they match, both in their order. -/
def pairing (a b : List Char) : List Char × List Char :=
  let (cs, taken) := matching b (reach a b) [] 0 a
  (cs, b.zipIdx.filterMap fun (c, j) => if taken.contains j then some c else none)

/-- Half of the matching letters that meet another one in their place. -/
def transpositions (cs ds : List Char) : Nat := ((cs.zip ds).filter fun (c, d) => c != d).length / 2

/-- How alike two words are, at most 1. -/
def similarity (a b : List Char) : Option Binary64 :=
  if a.isEmpty ∧ b.isEmpty then Binary64.ofNat? 1
  else
    let (cs, ds) := pairing a b
    let m := cs.length
    if m = 0 then some .zero
    else do
      let inA ← Binary64.ofRatio? m a.length
      let inB ← Binary64.ofRatio? m b.length
      let ordered ← Binary64.ofRatio? (m - transpositions cs ds) m
      (← (← inA.add? inB).add? ordered).div? (← Binary64.ofNat? 3)

/-- Whether two words are alike enough to take one for the other. -/
def isClose (s : Binary64) : Bool :=
  match Binary64.ofRatio? 7 10 with
  | some limit => s.exceeds limit
  | none => false

/-- Puts a word behind those that are no closer than it. -/
def insert (x : Binary64 × String) : List (Binary64 × String) → List (Binary64 × String)
  | [] => [x]
  | y :: ys => if y.1.exceeds x.1 then x :: y :: ys else y :: insert x ys

/-- The names that are close to a word, the closest one last. -/
def close (word : String) (names : List String) : List String :=
  let scored := names.filterMap fun n =>
    ((similarity word.toList n.toList).filter isClose).map fun s => (s, n)
  (scored.foldl (fun xs x => insert x xs) []).map Prod.snd

end FlowCluster.CommandLine.Similarity
