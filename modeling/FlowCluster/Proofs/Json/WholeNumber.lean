import FlowCluster.Proofs.Json.Written
import Mathlib.Data.List.Induction

/-! # Whole numbers that are written

The decimal digits of a whole number, with a minus sign where there is one, are a numeral. It stands for the number
that it was written from, however near that is to the ends of the range: no digit is dropped on the way. -/

namespace FlowCluster.Json
namespace Numeral

/-- The decimal digits of a number in their bytes. -/
def digits (n : Nat) : Bytes := bytesOf (Nat.toDigits 10 n)

def digitByte (d : Nat) : UInt8 := (Nat.digitChar d).toUInt8

/-- The ten digits, one by one. -/
private theorem digitByte_spec : ∀ d < 10, Text.Utf8.encodeChar (Nat.digitChar d) = [digitByte d] ∧
    isDigit (digitByte d) = true ∧ digitValue (digitByte d) = d ∧ (d ≠ 0 → digitByte d ≠ '0'.toUInt8) := by
  decide

private theorem bytesOf_digit {d : Nat} (h : d < 10) : bytesOf [Nat.digitChar d] = [digitByte d] := by
  rw [bytesOf_cons, (digitByte_spec d h).1]
  rfl

theorem digits_of_lt {n : Nat} (h : n < 10) : digits n = [digitByte n] := by
  rw [digits, Nat.toDigits_of_lt_base h, bytesOf_digit h]

/-- The last digit comes off at the end. -/
theorem digits_of_le {n : Nat} (h : 10 ≤ n) : digits n = digits (n / 10) ++ [digitByte (n % 10)] := by
  have hlast : n % 10 < 10 := Nat.mod_lt n (by omega)
  rw [digits, Nat.toDigits_of_base_le (by omega) h, bytesOf_append, bytesOf_digit hlast, digits]

theorem digitsValue_append (ds : Bytes) (b : UInt8) :
    digitsValue 0 (ds ++ [b]) = digitsValue 0 ds * 10 + digitValue b := by
  rw [digitsValue, List.foldl_append]
  rfl

theorem digitsValue_digits (n : Nat) : digitsValue 0 (digits n) = n := by
  induction n using Nat.strongRecOn with
  | ind n ih =>
    by_cases h : n < 10
    · have hvalue : digitValue (digitByte n) = n := (digitByte_spec n h).2.2.1
      rw [digits_of_lt h, digitsValue, List.foldl_cons, List.foldl_nil, hvalue]
      omega
    · have hvalue : digitValue (digitByte (n % 10)) = n % 10 := (digitByte_spec _ (Nat.mod_lt n (by omega))).2.2.1
      rw [digits_of_le (by omega), digitsValue_append, ih (n / 10) (by omega), hvalue]
      omega

/-- A number above zero does not begin with the digit zero. -/
private theorem wholeText_digits_of_pos {n : Nat} (hn : 0 < n) :
    ∃ b ds, digits n = b :: ds ∧ isDigit b = true ∧ b ≠ '0'.toUInt8 ∧ ∀ c ∈ ds, isDigit c = true := by
  induction n using Nat.strongRecOn with
  | ind n ih =>
    by_cases h : n < 10
    · obtain ⟨-, hdigit, -, hzero⟩ := digitByte_spec n h
      exact ⟨digitByte n, [], digits_of_lt h, hdigit, hzero (by omega), by simp⟩
    · obtain ⟨b, ds, heq, hb, hzero, hds⟩ := ih (n / 10) (by omega) (by omega)
      have hlast : isDigit (digitByte (n % 10)) = true := (digitByte_spec _ (Nat.mod_lt n (by omega))).2.1
      refine ⟨b, ds ++ [digitByte (n % 10)], ?_, hb, hzero, ?_⟩
      · rw [digits_of_le (by omega), heq, List.cons_append]
      · intro c hc
        rcases List.mem_append.mp hc with hc | hc
        · exact hds c hc
        · rwa [List.mem_singleton.mp hc]

theorem wholeText_digits (n : Nat) : WholeText (digits n) := by
  rcases Nat.eq_zero_or_pos n with rfl | hn
  · exact .zero
  · obtain ⟨b, ds, heq, hb, hzero, hds⟩ := wholeText_digits_of_pos hn
    rw [heq]
    exact .digits hb hzero hds

/-- No digit is dropped from a number that fits the word. The prefixes of such a number fit it too. -/
theorem gatherWhole_of_fits {ds : Bytes} (h : digitsValue 0 ds < Nat.pow 2 64) :
    gatherWhole ds = (digitsValue 0 ds, 0) := by
  induction ds using List.reverseRecOn with
  | nil => rfl
  | append_singleton ds b ih =>
    rw [digitsValue_append] at h
    have hprefix : gatherWhole ds = (digitsValue 0 ds, 0) := ih (by omega)
    rw [gatherWhole] at hprefix
    rw [gatherWhole, List.foldl_append, hprefix, digitsValue_append, List.foldl_cons, List.foldl_nil]
    exact if_pos ⟨rfl, h⟩

/-- Digits alone stand for the whole number that they write. -/
theorem number?_digits (i : Int) (h : -9223372036854775808 ≤ i ∧ i < 18446744073709551616) :
    (⟨decide (i < 0), digits i.natAbs, [], none⟩ : Numeral).number? = some (.whole i h) := by
  have hfits : digitsValue 0 (digits i.natAbs) < Nat.pow 2 64 := by
    rw [digitsValue_digits]
    simp only [Nat.pow_eq, Nat.reducePow]
    omega
  have hgather : gatherWhole (digits i.natAbs) = (i.natAbs, 0) := by
    rw [gatherWhole_of_fits hfits, digitsValue_digits]
  have hsigned : (if decide (i < 0) = true then -(i.natAbs : Int) else i.natAbs) = i := by
    split_ifs with hneg
    · rw [decide_eq_true_iff] at hneg
      omega
    · rw [decide_eq_true_iff] at hneg
      omega
  have hzero : ¬(decide (i < 0) = true ∧ i.natAbs = 0) := by
    rw [decide_eq_true_iff]
    omega
  simp only [number?, hgather, hsigned]
  rw [dif_pos ⟨⟨trivial, trivial, trivial, hzero⟩, h⟩]

end Numeral

theorem scalarText_whole (i : Int) (h : -9223372036854775808 ≤ i ∧ i < 18446744073709551616) :
    ScalarText (bytesOf (Number.wholeChars i)) (.number (.whole i h)) := by
  have hwhole := Numeral.wholeText_digits i.natAbs
  have hnumber := Numeral.number?_digits i h
  rw [Number.wholeChars]
  split_ifs with hneg
  · have hminus : bytesOf ('-' :: Nat.toDigits 10 i.natAbs) =
        '-'.toUInt8 :: (Numeral.digits i.natAbs ++ ([] ++ [])) := by
      rw [List.append_nil, List.append_nil, bytesOf_cons]
      rfl
    rw [hminus]
    rw [decide_eq_true hneg] at hnumber
    exact .number (.negative hwhole .none .none) hnumber
  · have hplain : bytesOf (Nat.toDigits 10 i.natAbs) = Numeral.digits i.natAbs ++ ([] ++ []) := by
      rw [List.append_nil, List.append_nil, Numeral.digits]
    rw [hplain]
    rw [decide_eq_false hneg] at hnumber
    exact .number (.positive hwhole .none .none) hnumber

end FlowCluster.Json
