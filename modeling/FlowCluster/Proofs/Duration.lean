import FlowCluster.Duration
import FlowCluster.Proofs.Text.Shown
import Mathlib.Data.List.DropRight
import Mathlib.Tactic.Positivity

/-! # Spans that are told apart

A span is written as its number of billionths of a second, pointed to suit one of four units. The amount is made of
digits and a point, and no unit begins with one of these, so what is written tells the unit and the amount; and under one
unit the amount tells the number. -/

namespace FlowCluster.Duration

open Text

/-- A span in billionths of a second. -/
def total (d : Duration) : Nat := d.seconds * 1000000000 + d.nanos

/-- The places that the point is moved by, to suit the unit that a span is written in. -/
def places (d : Duration) : Nat :=
  if d.seconds > 0 then 9 else if d.nanos ≥ 1000000 then 6 else if d.nanos ≥ 1000 then 3 else 0

/-- The name of the unit that suits a number of places. -/
def unit (places : Nat) : List Char :=
  if places = 9 then ['s'] else if places = 6 then ['m', 's'] else if places = 3 then ['µ', 's'] else ['n', 's']

/-- A number with a point moved to the left. -/
def amount (places n : Nat) : List Char := Nat.toDigits 10 (n / 10 ^ places) ++ fraction places (n % 10 ^ places)

theorem total_injective : Function.Injective total := by
  rintro ⟨seconds, nanos, hnanos⟩ ⟨seconds', nanos', hnanos'⟩ h
  simp only [total] at h
  rw [Duration.mk.injEq]
  omega

theorem chars_eq (d : Duration) : d.chars = amount d.places d.total ++ unit d.places := by
  obtain ⟨seconds, nanos, hnanos⟩ := d
  by_cases hs : seconds > 0
  · have hwhole : (seconds * 1000000000 + nanos) / 10 ^ 9 = seconds := by omega
    have hpart : (seconds * 1000000000 + nanos) % 10 ^ 9 = nanos := by omega
    simp only [chars, places, total, amount, if_pos hs, hwhole, hpart]
    rfl
  · have hzero : seconds = 0 := by omega
    by_cases hm : nanos ≥ 1000000
    · simp [chars, places, total, amount, unit, hzero, hm]
    · by_cases hu : nanos ≥ 1000
      · simp [chars, places, total, amount, unit, hzero, hm, hu]
      · simp [chars, places, total, amount, unit, hzero, hm, hu, fraction, Nat.mod_one]

theorem places_cases (d : Duration) : d.places = 9 ∨ d.places = 6 ∨ d.places = 3 ∨ d.places = 0 := by
  unfold places
  split_ifs <;> simp

/-! ## Amounts -/

variable {width n m : Nat}

theorem length_padded (hw : 0 < width) (h : n < 10 ^ width) : (padded width n).length = width := by
  have hlength : (Nat.toDigits 10 n).length ≤ width := (Nat.length_toDigits_le_iff (by omega) hw).mpr h
  rw [padded, List.length_append, List.length_replicate]
  omega

theorem ofDigitChars_padded (width n : Nat) : Nat.ofDigitChars 10 (padded width n) 0 = n := by
  rw [padded, Nat.ofDigitChars_append, Nat.ofDigitChars_replicate_zero, Nat.mul_zero, Nat.ofDigitChars_ten_toDigits]

/-- Trailing zeros say nothing where the number of places is known. -/
theorem padded_inj (hw : 0 < width) (hn : n < 10 ^ width) (hm : m < 10 ^ width)
    (h : (padded width n).rdropWhile (· == '0') = (padded width m).rdropWhile (· == '0')) : n = m := by
  have hzeros (k : Nat) : (padded width k).rtakeWhile (· == '0') =
      List.replicate ((padded width k).rtakeWhile (· == '0')).length '0' :=
    List.eq_replicate_of_mem fun _ hc => eq_of_beq (List.mem_rtakeWhile_imp (p := (· == '0')) hc)
  have hsplit (k : Nat) : (padded width k).rdropWhile (· == '0') ++ (padded width k).rtakeWhile (· == '0') =
      padded width k := List.rdropWhile_append_rtakeWhile
  -- Both are of one length, so as many zeros are cut off the one as off the other.
  have hcount : ((padded width n).rtakeWhile (· == '0')).length = ((padded width m).rtakeWhile (· == '0')).length := by
    have hlengthn := congrArg List.length (hsplit n)
    have hlengthm := congrArg List.length (hsplit m)
    rw [List.length_append, length_padded hw hn, h] at hlengthn
    rw [List.length_append, length_padded hw hm] at hlengthm
    omega
  have hsame : padded width n = padded width m := by
    rw [← hsplit n, ← hsplit m, h, hzeros n, hzeros m, hcount]
  rw [← ofDigitChars_padded width n, hsame, ofDigitChars_padded]

theorem fraction_inj (hn : n < 10 ^ width) (hm : m < 10 ^ width) (h : fraction width n = fraction width m) :
    n = m := by
  by_cases hw : width = 0
  · subst hw
    omega
  · unfold fraction at h
    split_ifs at h with hn0 hm0 hm0
    · rw [hn0, hm0]
    · exact padded_inj (Nat.pos_of_ne_zero hw) hn hm (List.cons.inj h).2

theorem isDigit_of_mem_padded {c : Char} (h : c ∈ padded width n) : c.isDigit := by
  rw [padded, List.mem_append] at h
  rcases h with h | h
  · rw [List.eq_of_mem_replicate h]
    rfl
  · exact Nat.isDigit_of_mem_toDigits (by omega) (by omega) h

theorem fraction_head? (width n : Nat) : ∀ c, (fraction width n).head? = some c → c = '.' := by
  intro c h
  unfold fraction at h
  split_ifs at h
  · exact absurd h nofun
  · exact (Option.some.inj h).symm

theorem amount_inj {places : Nat} (h : amount places n = amount places m) : n = m := by
  have hdigits (k : Nat) : ∀ c ∈ Nat.toDigits 10 k, c.isDigit = true := fun c hc =>
    Nat.isDigit_of_mem_toDigits (by omega) (by omega) hc
  have hpoint (k : Nat) : ∀ c, (fraction places k).head? = some c → c.isDigit = false := by
    intro c hc
    rw [fraction_head? places k c hc]
    rfl
  obtain ⟨hwhole, hpart⟩ := append_inj_of_span (hdigits _) (hdigits _) (hpoint _) (hpoint _) h
  have hdiv : n / 10 ^ places = m / 10 ^ places := by
    rw [← Nat.ofDigitChars_ten_toDigits (n := n / 10 ^ places), hwhole, Nat.ofDigitChars_ten_toDigits]
  have hmod : n % 10 ^ places = m % 10 ^ places :=
    fraction_inj (Nat.mod_lt n (by positivity)) (Nat.mod_lt m (by positivity)) hpart
  rw [← Nat.div_add_mod n (10 ^ places), hdiv, hmod, Nat.div_add_mod]

/-- The characters of an amount. -/
def numeric (c : Char) : Bool := c.isDigit || c == '.'

theorem numeric_of_mem_amount {places : Nat} : ∀ c ∈ amount places n, numeric c = true := by
  intro c h
  rw [numeric, Bool.or_eq_true, beq_iff_eq]
  rw [amount, List.mem_append] at h
  rcases h with h | h
  · exact .inl (Nat.isDigit_of_mem_toDigits (by omega) (by omega) h)
  · unfold fraction at h
    split_ifs at h
    · exact absurd h nofun
    · rcases List.mem_cons.mp h with h | h
      · exact .inr h
      · have hpadded := (List.rdropWhile_prefix (· == '0') (l := padded places _)).subset h
        exact .inl (isDigit_of_mem_padded hpadded)

/-! ## Units -/

private theorem unit_append_inj {p p' : Nat} {r r' : List Char} (hp : p = 9 ∨ p = 6 ∨ p = 3 ∨ p = 0)
    (hp' : p' = 9 ∨ p' = 6 ∨ p' = 3 ∨ p' = 0) (h : unit p ++ r = unit p' ++ r') : p = p' := by
  rcases hp with rfl | rfl | rfl | rfl <;> rcases hp' with rfl | rfl | rfl | rfl <;> simp [unit] at h ⊢

private theorem unit_not_numeric (p : Nat) (r : List Char) : ∀ c, (unit p ++ r).head? = some c → numeric c = false := by
  intro c h
  unfold unit at h
  split_ifs at h <;>
  · obtain rfl := Option.some.inj h
    rfl

variable {d d' : Duration}

/-- A span is read back from its text, whatever follows. -/
theorem chars_append_inj {r r' : List Char} (h : d.chars ++ r = d'.chars ++ r') : d = d' := by
  rw [chars_eq, chars_eq, List.append_assoc, List.append_assoc] at h
  obtain ⟨hamount, hunit⟩ := append_inj_of_span numeric_of_mem_amount numeric_of_mem_amount (unit_not_numeric _ r)
    (unit_not_numeric _ r') h
  rw [unit_append_inj d.places_cases d'.places_cases hunit] at hamount
  exact total_injective (amount_inj hamount)

theorem text_append_inj {r r' : String} (h : d.text ++ r = d'.text ++ r') : d = d' := by
  have hchars := congrArg String.toList h
  simp only [text, String.toList_append, String.toList_ofList] at hchars
  exact chars_append_inj hchars

theorem text_injective : Function.Injective text := by
  intro d d' h
  exact text_append_inj (congrArg (· ++ "") h)

theorem separable_text (d d' : Duration) : Separable d.text d'.text := by
  intro r r' h
  rw [text_append_inj h]

end FlowCluster.Duration
