import FlowCluster.Text.Basic
import Mathlib.Data.List.DropRight
import Mathlib.Tactic.SplitIfs

/-! # Texts that are trimmed and texts that are counts

What trimming takes from a text, and which texts are read as counts. -/

/-! ## What trimming takes away

Trimming takes white space from both ends of a text and nothing else, and it takes all of it: white space put around a
text is gone again afterwards. -/

namespace FlowCluster.Text.Blank

variable {before after : String} {bs as : List Char}

theorem isEmpty_iff {s : String} : isEmpty s = true ↔ ∀ c ∈ s.toList, isBlank c = true := by
  rw [isEmpty, List.all_eq_true]

theorem trimChars_eq (cs : List Char) : trimChars cs = (cs.dropWhile isBlank).rdropWhile isBlank := rfl

theorem rdropWhile_append (cs : List Char) (ha : ∀ c ∈ as, isBlank c = true) :
    (cs ++ as).rdropWhile isBlank = cs.rdropWhile isBlank := by
  rw [List.rdropWhile, List.reverse_append, List.dropWhile_append_of_pos fun c hc => ha c (List.mem_reverse.mp hc)]
  rfl

theorem trimChars_append (cs : List Char) (hb : ∀ c ∈ bs, isBlank c = true) (ha : ∀ c ∈ as, isBlank c = true) :
    trimChars (bs ++ cs ++ as) = trimChars cs := by
  rw [trimChars_eq, trimChars_eq, List.append_assoc, List.dropWhile_append_of_pos hb, List.dropWhile_append]
  split
  · next hcs =>
    rw [List.isEmpty_iff.mp hcs, List.dropWhile_eq_nil_iff.mpr ha]
  · exact rdropWhile_append _ ha

/-- White space put around a text is taken away. -/
theorem trim_append (s : String) (hb : isEmpty before = true) (ha : isEmpty after = true) :
    trim (before ++ s ++ after) = trim s := by
  rw [trim, String.toList_append, String.toList_append, trimChars_append _ (isEmpty_iff.mp hb) (isEmpty_iff.mp ha)]
  rfl

/-- A text without white space is not changed by trimming. -/
theorem trim_eq_self {s : String} (h : ∀ c ∈ s.toList, isBlank c = false) : trim s = s := by
  have hkept {cs : List Char} (h : ∀ c ∈ cs, isBlank c = false) : cs.dropWhile isBlank = cs := by
    cases cs with
    | nil => rfl
    | cons c cs => exact List.dropWhile_cons_of_neg (by simp [h c (List.mem_cons_self ..)])
  rw [trim, trimChars, hkept h, hkept fun c hc => h c (List.mem_reverse.mp hc), List.reverse_reverse,
    String.ofList_toList]

/-- What is taken away is white space. -/
theorem exists_trim (s : String) :
    ∃ before after, s = before ++ trim s ++ after ∧ isEmpty before = true ∧ isEmpty after = true := by
  have hfront := List.takeWhile_append_dropWhile (p := isBlank) (l := s.toList)
  have hback := List.rdropWhile_append_rtakeWhile (p := isBlank) (l := s.toList.dropWhile isBlank)
  refine ⟨String.ofList (s.toList.takeWhile isBlank),
    String.ofList ((s.toList.dropWhile isBlank).rtakeWhile isBlank), ?_, ?_, ?_⟩
  · rw [trim, trimChars_eq, ← String.ofList_append, ← String.ofList_append, List.append_assoc, hback, hfront,
      String.ofList_toList]
  · rw [isEmpty_iff, String.toList_ofList]
    exact fun c hc => List.mem_takeWhile_imp hc
  · rw [isEmpty_iff, String.toList_ofList]
    exact fun c hc => List.mem_rtakeWhile_imp hc

end FlowCluster.Text.Blank

/-! ## Texts that are counts

What is read as a count, and as which one. No white space is in it, so a text that is one is not changed by trimming. -/

namespace FlowCluster.Text.Count

/-- Digits of a count. -/
structure Digits (ds : List Char) (n : Nat) : Prop where
  ne_nil : ds ≠ []
  digits : ∀ c ∈ ds, c.isDigit = true
  value : Nat.ofDigitChars 10 ds 0 = n
  below : n < limit

/-- A text that writes a count: digits, perhaps after a plus sign. -/
def Writes (s : String) (n : Nat) : Prop := ∃ ds, (s.toList = ds ∨ s.toList = '+' :: ds) ∧ Digits ds n

variable {n m : Nat} {ds cs : List Char} {s : String}

/-- Digits do not make a number smaller. -/
theorem le_ofDigitChars (ds : List Char) (n : Nat) : n ≤ Nat.ofDigitChars 10 ds n := by
  induction ds generalizing n with
  | nil => exact Nat.le_of_eq Nat.ofDigitChars_nil.symm
  | cons c ds ih =>
    rw [Nat.ofDigitChars_cons]
    exact Nat.le_trans (by omega) (ih _)

/-- The digits after those of a number are taken one by one; that the number is below the limit at the end, it has been all
the time. -/
theorem readDigits_eq_ok_iff (hn : n < limit) :
    readDigits n ds = .ok m ↔ (∀ c ∈ ds, c.isDigit = true) ∧ Nat.ofDigitChars 10 ds n = m ∧ m < limit := by
  induction ds generalizing n with
  | nil =>
    rw [readDigits, Nat.ofDigitChars_nil]
    constructor
    · intro h
      cases h
      exact ⟨nofun, rfl, hn⟩
    · rintro ⟨-, rfl, -⟩
      rfl
  | cons c ds ih =>
    have hvalue : 10 * n + (c.toNat - '0'.toNat) = n * 10 + (c.toNat - 0x30) := by
      rw [Nat.mul_comm]
      rfl
    rw [readDigits, Nat.ofDigitChars_cons, hvalue, List.forall_mem_cons]
    dsimp only
    split_ifs with hc hlimit
    · rw [ih hlimit]
      simp only [hc, true_and]
    · refine iff_of_false nofun ?_
      rintro ⟨-, rfl, hm⟩
      exact hlimit (Nat.lt_of_le_of_lt (le_ofDigitChars ds _) hm)
    · refine iff_of_false nofun ?_
      rintro ⟨⟨hd, -⟩, -⟩
      exact hc hd

theorem readDigits_eq_ok_iff_digits (hne : ds ≠ []) : readDigits 0 ds = .ok n ↔ Digits ds n := by
  rw [readDigits_eq_ok_iff (by decide)]
  exact ⟨fun ⟨hdigits, hvalue, hbelow⟩ => ⟨hne, hdigits, hvalue, hbelow⟩,
    fun h => ⟨h.digits, h.value, h.below⟩⟩

/-- The sign is no digit. -/
private theorem ne_signed (hd : ∀ c ∈ ds, c.isDigit = true) (r : List Char) : ds ≠ '+' :: r := by
  rintro rfl
  exact absurd (hd '+' (List.mem_cons_self ..)) (by decide)

theorem readChars_eq_ok_iff : readChars cs = .ok n ↔ ∃ ds, (cs = ds ∨ cs = '+' :: ds) ∧ Digits ds n := by
  have hbare (h : ∀ r, cs ≠ '+' :: r) : (∃ ds, (cs = ds ∨ cs = '+' :: ds) ∧ Digits ds n) ↔ Digits cs n := by
    refine ⟨?_, fun hd => ⟨cs, .inl rfl, hd⟩⟩
    rintro ⟨ds, rfl | rfl, hd⟩
    · exact hd
    · exact absurd rfl (h ds)
  have hsigned (r : List Char) (h : cs = '+' :: r) :
      (∃ ds, (cs = ds ∨ cs = '+' :: ds) ∧ Digits ds n) ↔ Digits r n := by
    subst h
    refine ⟨?_, fun hd => ⟨r, .inr rfl, hd⟩⟩
    rintro ⟨ds, rfl | hds, hd⟩
    · exact absurd rfl (ne_signed hd.digits r)
    · rwa [(List.cons.inj hds).2]
  unfold readChars
  split
  · rw [hbare nofun]
    exact iff_of_false nofun fun hd => hd.ne_nil rfl
  · rw [hsigned [] rfl]
    exact iff_of_false nofun fun hd => hd.ne_nil rfl
  · next r hr =>
    rw [hsigned r rfl]
    exact readDigits_eq_ok_iff_digits hr
  · next hne _ hr =>
    rw [hbare fun r h => hr r h]
    exact readDigits_eq_ok_iff_digits hne

theorem read_eq_ok_iff : read s = .ok n ↔ Writes s n := readChars_eq_ok_iff

/-! ## Numbers of any size -/

/-- Digits of a number, as many as there may be. -/
structure Numeral (ds : List Char) (m : Nat) : Prop where
  ne_nil : ds ≠ []
  digits : ∀ c ∈ ds, c.isDigit = true
  value : Nat.ofDigitChars 10 ds 0 = m

/-- A text that denotes a number of any size: digits, perhaps after a plus sign. -/
def Denotes (s : String) (m : Nat) : Prop := ∃ ds, (s.toList = ds ∨ s.toList = '+' :: ds) ∧ Numeral ds m

theorem digits_iff : Digits ds n ↔ Numeral ds n ∧ n < limit :=
  ⟨fun h => ⟨⟨h.ne_nil, h.digits, h.value⟩, h.below⟩, fun ⟨h, hn⟩ => ⟨h.ne_nil, h.digits, h.value, hn⟩⟩

/-- The counts are the numbers below the limit. -/
theorem writes_iff : Writes s n ↔ Denotes s n ∧ n < limit := by
  simp only [Writes, Denotes, digits_iff, ← and_assoc, exists_and_right]

theorem denotes_toString (n : Nat) : Denotes (toString n) n := by
  refine ⟨Nat.toDigits 10 n, .inl ?_, Nat.toDigits_ne_nil, fun c hc => ?_, Nat.ofDigitChars_ten_toDigits⟩
  · rw [Nat.toString_eq_repr, Nat.toList_repr]
  · exact Nat.isDigit_of_mem_toDigits (by omega) (by omega) hc

namespace Denotes

theorem unique (h : Denotes s n) (h' : Denotes s m) : n = m := by
  obtain ⟨ds, hs, hd⟩ := h
  obtain ⟨ds', hs', hd'⟩ := h'
  have hsame : ds = ds' := by
    rcases hs with hs | hs <;> rcases hs' with hs' | hs'
    · exact hs.symm.trans hs'
    · exact absurd (hs.symm.trans hs') (ne_signed hd.digits ds')
    · exact absurd (hs'.symm.trans hs) (ne_signed hd'.digits ds)
    · exact (List.cons.inj (hs.symm.trans hs')).2
  rw [← hd.value, hsame, hd'.value]

private theorem not_blank_of_isDigit {c : Char} (h : c.isDigit = true) : Blank.isBlank c = false := by
  obtain ⟨hlow, hhigh⟩ : 0x30 ≤ c.toNat ∧ c.toNat ≤ 0x39 := Char.isDigit_iff_toNat.mp h
  rw [← Bool.not_eq_true]
  simp only [Blank.isBlank, Bool.or_eq_true, Bool.and_eq_true, decide_eq_true_eq, beq_iff_eq]
  omega

/-- There is no white space in a number. -/
theorem trim_eq (h : Denotes s n) : Blank.trim s = s := by
  obtain ⟨ds, hs, hd⟩ := h
  apply Blank.trim_eq_self
  intro c hc
  rcases hs with hs | hs
  · exact not_blank_of_isDigit (hd.digits c (hs ▸ hc))
  · rw [hs, List.mem_cons] at hc
    rcases hc with rfl | hc
    · decide
    · exact not_blank_of_isDigit (hd.digits c hc)

end Denotes

theorem Writes.trim_eq (h : Writes s n) : Blank.trim s = s := (writes_iff.mp h).1.trim_eq

end FlowCluster.Text.Count
