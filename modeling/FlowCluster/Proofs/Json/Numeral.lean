import FlowCluster.Json.Value
import FlowCluster.Proofs.Json.Reader

/-! # Spellings of numbers

The text of a numeral and its parts, and the reading of numbers up to the first byte that does not go on one. What
is reported for a number cut short does not matter for the numbers that are read. -/

namespace FlowCluster.Json
namespace Numeral

/-- A zero, or digits of which the first is no zero. -/
inductive WholeText : Bytes → Prop
  | zero : WholeText ['0'.toUInt8]
  | digits {b : UInt8} {ds : Bytes} :
      isDigit b = true → b ≠ '0'.toUInt8 → (∀ c ∈ ds, isDigit c = true) → WholeText (b :: ds)

/-- A point with digits, or nothing. -/
inductive FractionText : Bytes → Bytes → Prop
  | none : FractionText [] []
  | digits {d : UInt8} {ds : Bytes} :
      isDigit d = true → (∀ c ∈ ds, isDigit c = true) → FractionText ('.'.toUInt8 :: d :: ds) (d :: ds)

/-- A sign, or nothing, and whether it is a minus. -/
inductive SignText : Bytes → Bool → Prop
  | none : SignText [] false
  | plus : SignText ['+'.toUInt8] false
  | minus : SignText ['-'.toUInt8] true

/-- The letter of an exponent with its sign and digits, or nothing. -/
inductive ExponentText : Bytes → Option (Bool × Bytes) → Prop
  | none : ExponentText [] none
  | digits {m d : UInt8} {sign ds : Bytes} {negative : Bool} :
      m = 'e'.toUInt8 ∨ m = 'E'.toUInt8 → SignText sign negative → isDigit d = true →
      (∀ c ∈ ds, isDigit c = true) → ExponentText (m :: (sign ++ d :: ds)) (some (negative, d :: ds))

inductive Written : Bytes → Numeral → Prop
  | positive {w f fs e : Bytes} {x : Option (Bool × Bytes)} :
      WholeText w → FractionText f fs → ExponentText e x → Written (w ++ (f ++ e)) ⟨false, w, fs, x⟩
  | negative {w f fs e : Bytes} {x : Option (Bool × Bytes)} :
      WholeText w → FractionText f fs → ExponentText e x →
      Written ('-'.toUInt8 :: (w ++ (f ++ e))) ⟨true, w, fs, x⟩

private def Stops (p : UInt8 → Bool) (r : Bytes) : Prop := ∀ b q, r = b :: q → p b = false

private theorem takeWhile_append {p : UInt8 → Bool} {ds r : Bytes} (h : ∀ c ∈ ds, p c = true) (hr : Stops p r) :
    (ds ++ r).takeWhile p = ds ∧ (ds ++ r).dropWhile p = r := by
  rw [List.takeWhile_append_of_pos h, List.dropWhile_append_of_pos h]
  cases r with
  | nil => simp
  | cons b q => simp [hr b q rfl]

private theorem isDigit_of_mem_takeWhile (r : Bytes) : ∀ c ∈ r.takeWhile isDigit, isDigit c = true :=
  fun _ h => List.mem_takeWhile_imp h

private theorem stops_of_apart {r : Bytes} (h : Apart r) : Stops isDigit r := by
  intro b q hr
  have := h b q hr
  simp only [goesOnNumber, Bool.or_eq_false_iff] at this
  exact this.1.1.1

private theorem ExponentText.stops {e : Bytes} {x : Option (Bool × Bytes)} (h : ExponentText e x) {r : Bytes}
    (hr : Apart r) : Stops (fun b => isDigit b || b == '.'.toUInt8) (e ++ r) := by
  cases h with
  | none =>
    intro b q hb
    have := hr b q hb
    simp only [goesOnNumber, Bool.or_eq_false_iff] at this
    have hd : isDigit b = false := this.1.1.1
    simp only [hd, this.1.1.2, Bool.or_self]
  | digits hm _ _ _ =>
    rintro b q ⟨⟩
    rcases hm with rfl | rfl <;> decide

private theorem FractionText.stops {f fs : Bytes} (h : FractionText f fs) {r : Bytes}
    (hr : Stops (fun b => isDigit b || b == '.'.toUInt8) r) : Stops isDigit (f ++ r) := by
  cases h with
  | none =>
    intro b q hb
    have := hr b q hb
    simp only [Bool.or_eq_false_iff] at this
    exact this.1
  | digits _ _ =>
    rintro b q ⟨⟩
    decide

private theorem readWhole_sound {atEnd : Problem} {s w : Bytes} {r : Rest s} (h : readWhole atEnd s = .ok (w, r)) :
    WholeText w ∧ s = w ++ r.bytes := by
  unfold readWhole at h
  split at h
  · simp at h
  · next b s' =>
    split_ifs at h with hb hd
    · subst hb
      split at h
      · split_ifs at h
        simp only [Except.ok.injEq, Prod.mk.injEq] at h
        obtain ⟨rfl, rfl⟩ := h
        exact ⟨.zero, rfl⟩
      · simp only [Except.ok.injEq, Prod.mk.injEq] at h
        obtain ⟨rfl, rfl⟩ := h
        exact ⟨.zero, rfl⟩
    · simp only [Except.ok.injEq, Prod.mk.injEq] at h
      obtain ⟨rfl, rfl⟩ := h
      exact ⟨.digits hd hb (isDigit_of_mem_takeWhile s'), by simp [afterDigits]⟩

private theorem readWhole_complete (atEnd : Problem) {w r : Bytes} (hw : WholeText w) (hr : Stops isDigit r) :
    ∃ h, readWhole atEnd (w ++ r) = .ok (w, ⟨r, h⟩) := by
  cases hw with
  | zero =>
    refine ⟨by simp, ?_⟩
    cases r with
    | nil => simp [readWhole]
    | cons b q => simp [readWhole, hr b q rfl]
  | digits hb hz hds =>
    obtain ⟨ht, hd⟩ := takeWhile_append hds hr
    exact ⟨by simp only [List.length_append, List.length_cons]; omega, by simp [readWhole, hb, hz, ht, hd, afterDigits]⟩

private theorem readFraction_sound {atEnd : Problem} {s fs : Bytes} {t : Tail s}
    (h : readFraction atEnd s = .ok (fs, t)) : ∃ f, FractionText f fs ∧ s = f ++ t.bytes := by
  unfold readFraction at h
  split at h
  · simp only [Except.ok.injEq, Prod.mk.injEq] at h
    obtain ⟨rfl, rfl⟩ := h
    exact ⟨[], .none, rfl⟩
  · next b s' =>
    split_ifs at h with hb
    · split at h
      · simp at h
      · simp at h
      · next d ds hd =>
        simp only [Except.ok.injEq, Prod.mk.injEq] at h
        obtain ⟨rfl, rfl⟩ := h
        have hds := isDigit_of_mem_takeWhile s'
        rw [hd] at hds
        refine ⟨_, .digits (hds d (by simp)) fun c hc => hds c (List.mem_cons_of_mem d hc), ?_⟩
        rw [hb, List.cons_append, ← hd]
        simp [afterDigits]
    · simp only [Except.ok.injEq, Prod.mk.injEq] at h
      obtain ⟨rfl, rfl⟩ := h
      exact ⟨[], .none, rfl⟩

private theorem readFraction_complete (atEnd : Problem) {f fs r : Bytes} (hf : FractionText f fs)
    (hr : Stops (fun b => isDigit b || b == '.'.toUInt8) r) :
    ∃ h, readFraction atEnd (f ++ r) = .ok (fs, ⟨r, h⟩) := by
  cases hf with
  | none =>
    cases r with
    | nil => exact ⟨by simp, by simp [readFraction]⟩
    | cons b q =>
      have := hr b q rfl
      simp only [Bool.or_eq_false_iff, beq_eq_false_iff_ne] at this
      exact ⟨by simp, by simp [readFraction, this.2]⟩
  | @digits d ds hd hds =>
    have hc : ∀ c ∈ d :: ds, isDigit c = true := by simpa [hd] using hds
    obtain ⟨ht, hr⟩ := takeWhile_append (r := r) hc (FractionText.stops .none hr)
    rw [List.cons_append] at ht hr
    exact ⟨by simp; omega, by simp [readFraction, ht, hr, afterDigits]⟩

private theorem readSign_sound {s : Bytes} {negative : Bool} {t : Tail s} (h : readSign s = (negative, t)) :
    ∃ g, SignText g negative ∧ s = g ++ t.bytes := by
  unfold readSign at h
  split at h
  · simp only [Prod.mk.injEq] at h
    obtain ⟨rfl, rfl⟩ := h
    exact ⟨[], .none, rfl⟩
  · split_ifs at h with hm hp
    · simp only [Prod.mk.injEq] at h
      obtain ⟨rfl, rfl⟩ := h
      exact ⟨_, .minus, by rw [hm]; rfl⟩
    · simp only [Prod.mk.injEq] at h
      obtain ⟨rfl, rfl⟩ := h
      exact ⟨_, .plus, by rw [hp]; rfl⟩
    · simp only [Prod.mk.injEq] at h
      obtain ⟨rfl, rfl⟩ := h
      exact ⟨[], .none, rfl⟩

private theorem readSign_complete {g : Bytes} {negative : Bool} (hg : SignText g negative) {d : UInt8}
    (hd : isDigit d = true) (r : Bytes) : ∃ h, readSign (g ++ d :: r) = (negative, ⟨d :: r, h⟩) := by
  cases hg with
  | none =>
    have hm : d ≠ '-'.toUInt8 := by
      rintro rfl
      exact absurd hd (by decide)
    have hp : d ≠ '+'.toUInt8 := by
      rintro rfl
      exact absurd hd (by decide)
    exact ⟨by simp, by simp [readSign, hm, hp]⟩
  | plus =>
    have : '+'.toUInt8 ≠ '-'.toUInt8 := by decide
    exact ⟨by simp, by simp [readSign, this]⟩
  | minus => exact ⟨by simp, by simp [readSign]⟩

private theorem readExponent_sound {atEnd : Problem} {s : Bytes} {x : Option (Bool × Bytes)} {t : Tail s}
    (h : readExponent atEnd s = .ok (x, t)) : ∃ e, ExponentText e x ∧ s = e ++ t.bytes := by
  unfold readExponent at h
  split at h
  · simp only [Except.ok.injEq, Prod.mk.injEq] at h
    obtain ⟨rfl, rfl⟩ := h
    exact ⟨[], .none, rfl⟩
  · next b s' =>
    split_ifs at h with hb
    · split at h
      · simp at h
      · next negative d q hq hs =>
        split_ifs at h with hd
        simp only [Except.ok.injEq, Prod.mk.injEq] at h
        obtain ⟨rfl, rfl⟩ := h
        obtain ⟨g, hg, he⟩ := readSign_sound hs
        refine ⟨_, .digits hb hg hd (isDigit_of_mem_takeWhile q), ?_⟩
        simp [he, afterDigits]
    · simp only [Except.ok.injEq, Prod.mk.injEq] at h
      obtain ⟨rfl, rfl⟩ := h
      exact ⟨[], .none, rfl⟩

private theorem readExponent_complete (atEnd : Problem) {e r : Bytes} {x : Option (Bool × Bytes)}
    (he : ExponentText e x) (hr : Apart r) : ∃ h, readExponent atEnd (e ++ r) = .ok (x, ⟨r, h⟩) := by
  cases he with
  | none =>
    cases r with
    | nil => exact ⟨by simp, by simp [readExponent]⟩
    | cons b q =>
      have := hr b q rfl
      simp only [goesOnNumber, Bool.or_eq_false_iff, beq_eq_false_iff_ne] at this
      exact ⟨by simp, by simp [readExponent, this.1.2, this.2]⟩
  | @digits m d g ds negative hm hg hd hds =>
    obtain ⟨ht, hr⟩ := takeWhile_append hds (stops_of_apart hr)
    obtain ⟨_, hs⟩ := readSign_complete hg hd (ds ++ r)
    rw [List.cons_append, List.append_assoc, List.cons_append]
    exact ⟨by simp; omega, by simp [readExponent, hm, hs, hd, ht, hr, afterDigits]⟩

private theorem readUnsigned_sound {atEnd : Problem} {negative : Bool} {s : Bytes} {x : Numeral} {r : Rest s}
    (h : readUnsigned atEnd negative s = .ok (x, r)) :
    ∃ w f fs e y, WholeText w ∧ FractionText f fs ∧ ExponentText e y ∧ x = ⟨negative, w, fs, y⟩ ∧
      s = w ++ (f ++ e) ++ r.bytes := by
  unfold readUnsigned at h
  split at h
  · simp at h
  · next w q hw =>
    split at h
    · simp at h
    · next fs t hf =>
      split at h
      · simp at h
      · next y u he =>
        simp only [Except.ok.injEq, Prod.mk.injEq] at h
        obtain ⟨rfl, rfl⟩ := h
        obtain ⟨hw, hs⟩ := readWhole_sound hw
        obtain ⟨f, hf, hq⟩ := readFraction_sound hf
        obtain ⟨e, he, ht⟩ := readExponent_sound he
        refine ⟨w, f, fs, e, y, hw, hf, he, rfl, ?_⟩
        calc s = w ++ q.bytes := hs
          _ = w ++ (f ++ t.bytes) := congrArg (w ++ ·) hq
          _ = w ++ (f ++ (e ++ u.bytes)) := congrArg (fun z => w ++ (f ++ z)) ht
          _ = w ++ (f ++ e) ++ u.bytes := by simp

private theorem readUnsigned_complete (atEnd : Problem) (negative : Bool) {w f fs e r : Bytes}
    {y : Option (Bool × Bytes)} (hw : WholeText w) (hf : FractionText f fs) (he : ExponentText e y) (hr : Apart r) :
    ∃ h, readUnsigned atEnd negative (w ++ (f ++ e) ++ r) = .ok (⟨negative, w, fs, y⟩, ⟨r, h⟩) := by
  obtain ⟨h₁, hwr⟩ := readWhole_complete atEnd hw (hf.stops (he.stops hr))
  obtain ⟨h₂, hfr⟩ := readFraction_complete atEnd hf (he.stops hr)
  obtain ⟨h₃, her⟩ := readExponent_complete atEnd he hr
  rw [List.append_assoc, List.append_assoc]
  exact ⟨by simp at h₁ ⊢; omega, by simp [readUnsigned, hwr, hfr, her]⟩

theorem read_sound {atEnd : Problem} {s : Bytes} {x : Numeral} {r : Rest s} (h : read atEnd s = .ok (x, r)) :
    ∃ e, Written e x ∧ s = e ++ r.bytes := by
  unfold read at h
  split at h
  · simp at h
  · next b s' =>
    split_ifs at h with hb
    · split at h
      · simp at h
      · next y q hq =>
        simp only [Except.ok.injEq, Prod.mk.injEq] at h
        obtain ⟨rfl, rfl⟩ := h
        obtain ⟨w, f, fs, e, z, hw, hf, he, rfl, hs⟩ := readUnsigned_sound hq
        exact ⟨_, .negative hw hf he, hb ▸ congrArg (b :: ·) hs⟩
    · obtain ⟨w, f, fs, e, z, hw, hf, he, rfl, hs⟩ := readUnsigned_sound h
      exact ⟨_, .positive hw hf he, hs⟩

theorem WholeText.begins {w : Bytes} (h : WholeText w) : ∃ b q, w = b :: q ∧ isDigit b = true := by
  cases h with
  | zero => exact ⟨_, _, rfl, by decide⟩
  | digits hb _ _ => exact ⟨_, _, rfl, hb⟩

theorem read_complete (atEnd : Problem) {e r : Bytes} {x : Numeral} (he : Written e x) (hr : Apart r) :
    ∃ h, read atEnd (e ++ r) = .ok (x, ⟨r, h⟩) := by
  cases he with
  | positive hw hf he =>
    obtain ⟨h, hu⟩ := readUnsigned_complete atEnd false hw hf he hr
    obtain ⟨b, q, rfl, hb⟩ := hw.begins
    have hm : b ≠ '-'.toUInt8 := by
      rintro rfl
      exact absurd hb (by decide)
    simp only [List.cons_append] at h hu ⊢
    exact ⟨h, by simp only [read, hm, ↓reduceIte, hu]⟩
  | negative hw hf he =>
    obtain ⟨h, hu⟩ := readUnsigned_complete atEnd true hw hf he hr
    exact ⟨Nat.lt_succ_of_lt h, by simp [read, hu, Rest.widen]⟩

theorem Written.begins {e : Bytes} {x : Numeral} (h : Written e x) : ∃ b q, e = b :: q ∧ beginsNumeral b = true := by
  cases h with
  | positive hw _ _ =>
    obtain ⟨b, q, rfl, hb⟩ := hw.begins
    exact ⟨b, _, rfl, by simp [beginsNumeral, hb]⟩
  | negative _ _ _ => exact ⟨_, _, rfl, by simp [beginsNumeral]⟩

end Numeral

theorem number_sound {s : Bytes} {n : Number} {r : Rest s} (h : number s = .ok (n, r)) :
    ∃ e x, Numeral.Written e x ∧ x.number? = some n ∧ s = e ++ r.bytes := by
  unfold number at h
  split at h
  · simp at h
  · next x q hq =>
    split at h
    · next m hm =>
      simp only [Except.ok.injEq, Prod.mk.injEq] at h
      obtain ⟨rfl, rfl⟩ := h
      obtain ⟨e, he, hs⟩ := Numeral.read_sound hq
      exact ⟨e, x, he, hm, hs⟩
    · simp at h

theorem number_complete {e r : Bytes} {x : Numeral} {n : Number} (he : Numeral.Written e x) (hn : x.number? = some n)
    (hr : Apart r) : ∃ h, number (e ++ r) = .ok (n, ⟨r, h⟩) := by
  obtain ⟨h, hx⟩ := Numeral.read_complete .endInValue he hr
  exact ⟨h, by simp [number, hx, hn]⟩

end FlowCluster.Json
