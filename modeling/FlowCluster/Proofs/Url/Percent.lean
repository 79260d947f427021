import FlowCluster.Proofs.Text.Utf8
import FlowCluster.Url.Percent

/-! # Encoded text and what it denotes

Decoding undoes encoding, so encoding loses nothing. What encoding writes is made of unreserved characters and
triples alone, and so can stand in an address as part of one segment. -/

namespace FlowCluster.Url.Percent

/-- The digits that encoding writes. -/
def isUpperHex (c : Char) : Bool := c.isDigit || ('A' ≤ c && c ≤ 'F')

/-- A text of unreserved characters and triples. -/
inductive Encoded : List Char → Prop
  | nil : Encoded []
  | char {c : Char} {r : List Char} (hc : isUnreserved c) (hr : Encoded r) : Encoded (c :: r)
  | triple {a b : Char} {r : List Char} (ha : isUpperHex a) (hb : isUpperHex b) (hr : Encoded r) :
      Encoded ('%' :: a :: b :: r)

private theorem isUpperHex_hexDigit : ∀ n < 16, isUpperHex (hexDigit n) := by decide

private theorem value?_hexDigit : ∀ n < 16, Text.Hex.value? (hexDigit n) = some n := by decide

private theorem not_isUnreserved_percent : isUnreserved '%' = false := by decide

theorem encoded_encode (s : Bytes) : Encoded (encode s) := by
  induction s with
  | nil => exact .nil
  | cons b s ih =>
    have hb := b.toNat_lt
    rw [encode, List.flatMap_cons, encodeByte]
    split
    · next h => exact .char h.2 ih
    · exact .triple (isUpperHex_hexDigit _ (by omega)) (isUpperHex_hexDigit _ (by omega)) ih

theorem decode_cons {c : Char} (h : c ≠ '%') (r : List Char) :
    decode (c :: r) = Text.Utf8.encodeChar c ++ decode r := by
  rw [decode]
  intro a b r' hc
  exact absurd hc h

private theorem decode_encodeByte_append (b : UInt8) (r : List Char) :
    decode (encodeByte b ++ r) = b :: decode r := by
  have hb := b.toNat_lt
  unfold encodeByte
  split
  · next h =>
    have hn : b.toNat < 0x80 := h.1
    have hv : (Char.ofNat b.toNat).toNat = b.toNat := Text.Utf8.toNat_ofNat (.inl (by omega))
    have hc : Char.ofNat b.toNat ≠ '%' := by
      intro hc
      rw [hc, not_isUnreserved_percent] at h
      exact absurd h.2 (by decide)
    rw [List.singleton_append, decode_cons hc, Text.Utf8.encodeChar]
    simp [hv, hn]
  · rw [triple, List.cons_append, List.cons_append, List.cons_append, List.nil_append, decode,
      value?_hexDigit _ (by omega), value?_hexDigit _ (by omega)]
    have hd : b.toNat / 16 * 16 + b.toNat % 16 = b.toNat := by omega
    simp [hd]

@[simp] theorem decode_encode (s : Bytes) : decode (encode s) = s := by
  induction s with
  | nil => simp [encode, decode]
  | cons b s ih => rw [encode, List.flatMap_cons, decode_encodeByte_append, ← encode, ih]

theorem encode_injective : Function.Injective encode := by
  intro s t h
  rw [← decode_encode s, h, decode_encode]

end FlowCluster.Url.Percent
