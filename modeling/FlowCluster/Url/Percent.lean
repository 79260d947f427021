import FlowCluster.Text.Basic
import FlowCluster.Text.Utf8

/-! # Percent encoding

Bytes are written as a percent sign and two digits in base sixteen. Encoding leaves the unreserved characters as
they are, so that what it writes can stand anywhere in an address. Escaping is milder: it leaves whatever a part of
an address may hold. Decoding accepts digits of either case and takes every other character for itself. -/

namespace FlowCluster.Url.Percent

/-- Characters that are never encoded. -/
def isUnreserved (c : Char) : Bool :=
  c.isAlphanum || c == '-' || c == '_' || c == '.' || c == '~'

/-- A digit in base sixteen, upper case. -/
def hexDigit (n : Nat) : Char := (Nat.digitChar n).toUpper

/-- A percent sign and the two digits of a byte. -/
def triple (b : UInt8) : List Char := ['%', hexDigit (b.toNat / 16), hexDigit (b.toNat % 16)]

/-- One byte: itself if it is an unreserved character, else its triple. -/
def encodeByte (b : UInt8) : List Char :=
  if b < 0x80 ∧ isUnreserved (Char.ofNat b.toNat) then [Char.ofNat b.toNat] else triple b

def encode (s : Bytes) : List Char := s.flatMap encodeByte

/-- A text with the characters that may not stay written as their bytes. -/
def escape (stays : Char → Bool) (cs : List Char) : List Char :=
  cs.flatMap fun c => if stays c then [c] else (Text.Utf8.encodeChar c).flatMap triple

theorem escape_eq_self {stays : Char → Bool} {cs : List Char} (h : ∀ c ∈ cs, stays c = true) :
    escape stays cs = cs := by
  induction cs with
  | nil => rfl
  | cons c r ih =>
    have hr := ih fun d hd => h d (List.mem_cons_of_mem c hd)
    simp_all [escape]

/-- The bytes that a text denotes. A percent sign without two digits stands for itself. -/
def decode : List Char → Bytes
  | '%' :: a :: b :: r =>
    match Text.Hex.value? a, Text.Hex.value? b with
    | some x, some y => (x * 16 + y).toUInt8 :: decode r
    | _, _ => 0x25 :: decode (a :: b :: r)
  | c :: r => Text.Utf8.encodeChar c ++ decode r
  | [] => []

end FlowCluster.Url.Percent
