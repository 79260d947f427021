/-! # Spans of time

Whole seconds and a part of a second in billionths, written in the largest of four units in which the span is at
least one, with a fraction that has no trailing zeros. -/

namespace FlowCluster

structure Duration where
  seconds : Nat
  nanos : Nat
  nanos_lt : nanos < 1000000000
  deriving DecidableEq, Repr

namespace Duration

def ofSeconds (n : Nat) : Duration := ⟨n, 0, by decide⟩

/-- A span from seconds and any number of billionths; full seconds among them are carried over. -/
def ofParts (seconds nanos : Nat) : Duration :=
  ⟨seconds + nanos / 1000000000, nanos % 1000000000, Nat.mod_lt _ (by decide)⟩

/-- Digits of `n`, filled with zeros on the left to the given width. -/
def padded (width n : Nat) : List Char :=
  let ds := Nat.toDigits 10 n
  List.replicate (width - ds.length) '0' ++ ds

/-- A fraction of `width` decimal places worth `n`, without its trailing zeros, and nothing at all for zero. -/
def fraction (width n : Nat) : List Char :=
  if n = 0 then [] else '.' :: ((padded width n).reverse.dropWhile (· == '0')).reverse

def chars (d : Duration) : List Char :=
  if d.seconds > 0 then Nat.toDigits 10 d.seconds ++ fraction 9 d.nanos ++ ['s']
  else if d.nanos ≥ 1000000 then
    Nat.toDigits 10 (d.nanos / 1000000) ++ fraction 6 (d.nanos % 1000000) ++ ['m', 's']
  else if d.nanos ≥ 1000 then
    Nat.toDigits 10 (d.nanos / 1000) ++ fraction 3 (d.nanos % 1000) ++ ['µ', 's']
  else Nat.toDigits 10 d.nanos ++ ['n', 's']

/-- The span written out, as in `30s`, `1.5ms` or `0ns`. -/
def text (d : Duration) : String := String.ofList d.chars

end Duration
end FlowCluster
