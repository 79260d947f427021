import FlowCluster.Proofs.Json.Skip

/-! # Where a list is cut

A text is cut at the commas that stand in no string and inside no bracket. A scan that knows no more of a document than
its strings and brackets finds them, and it passes over every well-formed value; so the cut of a list into pieces does
not depend on what the pieces are. -/

namespace FlowCluster.Json

/-- How far a scan has come: outside of any string, inside of one, or behind a backslash in one; with the brackets that
are open, innermost first. -/
inductive Scan
  | outside (open_ : List Bracket)
  | quoted (open_ : List Bracket)
  | escaped (open_ : List Bracket)
  deriving DecidableEq

/-- Goes over one byte. Outside of all brackets a comma ends the scan, and so does a bracket that closes none. -/
def Scan.step : Scan → UInt8 → Option Scan
  | .outside [], b =>
    if b = '"'.toUInt8 then some (.quoted [])
    else match opening? b with
      | some k => some (.outside [k])
      | none => if b = ','.toUInt8 ∨ b = ']'.toUInt8 ∨ b = '\x7d'.toUInt8 then none else some (.outside [])
  | .outside (k :: outer), b =>
    if b = '"'.toUInt8 then some (.quoted (k :: outer))
    else match opening? b with
      | some k' => some (.outside (k' :: k :: outer))
      | none =>
        if b = k.closing then some (.outside outer)
        else if b = ']'.toUInt8 ∨ b = '\x7d'.toUInt8 then none
        else some (.outside (k :: outer))
  | .quoted open_, b =>
    if b = '"'.toUInt8 then some (.outside open_)
    else if b = '\\'.toUInt8 then some (.escaped open_)
    else some (.quoted open_)
  | .escaped open_, _ => some (.quoted open_)

def Scan.over (s : Scan) (e : Bytes) : Option Scan := e.foldlM step s

/-- Bytes whose strings end and whose brackets match, with no comma outside of both. -/
def Piece (e : Bytes) : Prop := (Scan.outside []).over e = some (.outside [])

instance (e : Bytes) : Decidable (Piece e) := inferInstanceAs (Decidable (_ = _))

namespace Scan

@[simp] theorem over_nil (s : Scan) : s.over [] = some s := rfl

theorem over_cons (s : Scan) (b : UInt8) (e : Bytes) : s.over (b :: e) = (s.step b).bind fun t => t.over e := rfl

theorem over_append (s : Scan) (e f : Bytes) : s.over (e ++ f) = (s.over e).bind fun t => t.over f :=
  List.foldlM_append

theorem over_append_of_eq {s t : Scan} {e : Bytes} (h : s.over e = some t) (f : Bytes) : s.over (e ++ f) = t.over f := by
  rw [over_append, h, Option.bind_some]

theorem over_cons_of_eq {s t : Scan} {b : UInt8} (h : s.step b = some t) (e : Bytes) : s.over (b :: e) = t.over e := by
  rw [over_cons, h, Option.bind_some]

end Scan

/-- A byte that ends a scan ends it at one place only. -/
theorem Piece.append_inj {p q r s : Bytes} {a b : UInt8} (hp : Piece p) (hq : Piece q)
    (ha : (Scan.outside []).step a = none) (hb : (Scan.outside []).step b = none) (h : p ++ a :: r = q ++ b :: s) :
    p = q ∧ a = b ∧ r = s := by
  have hends {p q e : Bytes} {a : UInt8} (hp : Piece p) (hq : Piece q) (ha : (Scan.outside []).step a = none)
      (he : q = p ++ a :: e) : False := by
    rw [Piece, he, Scan.over_append_of_eq hp, Scan.over_cons, ha] at hq
    cases hq
  rcases List.append_eq_append_iff.mp h with ⟨t, ht, ht'⟩ | ⟨t, ht, ht'⟩
  · cases t with
    | nil =>
      rw [List.append_nil] at ht
      obtain ⟨hab, hrs⟩ := List.cons.inj ht'
      exact ⟨ht.symm, hab, hrs⟩
    | cons c t =>
      obtain ⟨rfl, -⟩ := List.cons.inj ht'
      exact (hends hp hq ha ht).elim
  · cases t with
    | nil =>
      rw [List.append_nil] at ht
      obtain ⟨hab, hrs⟩ := List.cons.inj ht'
      exact ⟨ht, hab.symm, hrs.symm⟩
    | cons c t =>
      obtain ⟨rfl, -⟩ := List.cons.inj ht'
      exact (hends hq hp hb ht).elim

theorem step_comma : (Scan.outside []).step ','.toUInt8 = none := by decide

theorem step_closing (k : Bracket) : (Scan.outside []).step k.closing = none := by cases k <;> decide

/-- A byte that is neither a quote nor a comma nor a bracket. -/
def Ordinary (b : UInt8) : Prop :=
  b ≠ '"'.toUInt8 ∧ b ≠ ','.toUInt8 ∧ b ≠ '['.toUInt8 ∧ b ≠ ']'.toUInt8 ∧ b ≠ '\x7b'.toUInt8 ∧ b ≠ '\x7d'.toUInt8

instance (b : UInt8) : Decidable (Ordinary b) := inferInstanceAs (Decidable (_ ∧ _))

theorem step_ordinary {b : UInt8} (h : Ordinary b) (open_ : List Bracket) :
    (Scan.outside open_).step b = some (.outside open_) := by
  obtain ⟨hq, hc, hl, hl', ho, ho'⟩ := h
  cases open_ with
  | nil => simp [Scan.step, opening?_eq_none hl ho, hq, hc, hl', ho']
  | cons k outer =>
    have hk : b ≠ k.closing := by cases k <;> assumption
    simp [Scan.step, opening?_eq_none hl ho, hq, hk, hl', ho']

theorem over_ordinary {e : Bytes} (h : ∀ b ∈ e, Ordinary b) (open_ : List Bracket) :
    (Scan.outside open_).over e = some (.outside open_) := by
  induction e with
  | nil => rfl
  | cons b e ih =>
    rw [Scan.over_cons_of_eq (step_ordinary (h b (List.mem_cons_self ..)) open_)]
    exact ih fun c hc => h c (List.mem_cons_of_mem b hc)

private theorem ordinary_of_all {e : Bytes} (h : e.all (fun b => decide (Ordinary b)) = true) : ∀ b ∈ e, Ordinary b :=
  fun b hb => of_decide_eq_true (List.all_eq_true.mp h b hb)

/-- What holds of no mark is a property of ordinary bytes only. -/
private theorem ordinary_of_unmarked {p : UInt8 → Bool} {b : UInt8} (hb : p b = true)
    (h : ['"'.toUInt8, ','.toUInt8, '['.toUInt8, ']'.toUInt8, '\x7b'.toUInt8, '\x7d'.toUInt8].any p = false) :
    Ordinary b := by
  have hne (m : UInt8) (hm : ¬p m = true) : b ≠ m := by
    rintro rfl
    exact hm hb
  rw [List.any_eq_false] at h
  simp only [List.forall_mem_cons] at h
  obtain ⟨hq, hc, hl, hl', ho, ho', -⟩ := h
  exact ⟨hne _ hq, hne _ hc, hne _ hl, hne _ hl', hne _ ho, hne _ ho'⟩

theorem ordinary_of_isBlank {b : UInt8} (h : isBlank b = true) : Ordinary b := ordinary_of_unmarked h (by decide)

private theorem ordinary_of_isDigit {b : UInt8} (h : Numeral.isDigit b = true) : Ordinary b :=
  ordinary_of_unmarked h (by decide)

private theorem ordinary_digits {ds : Bytes} (h : ∀ c ∈ ds, Numeral.isDigit c = true) : ∀ b ∈ ds, Ordinary b :=
  fun b hb => ordinary_of_isDigit (h b hb)

private theorem ordinary_wholeText {w : Bytes} (h : Numeral.WholeText w) : ∀ b ∈ w, Ordinary b := by
  cases h with
  | zero => exact ordinary_of_all (by decide)
  | digits hb _ hds => exact List.forall_mem_cons.mpr ⟨ordinary_of_isDigit hb, ordinary_digits hds⟩

private theorem ordinary_fractionText {f fs : Bytes} (h : Numeral.FractionText f fs) : ∀ b ∈ f, Ordinary b := by
  cases h with
  | none => exact ordinary_of_all (by decide)
  | digits hd hds =>
    exact List.forall_mem_cons.mpr ⟨by decide, List.forall_mem_cons.mpr ⟨ordinary_of_isDigit hd, ordinary_digits hds⟩⟩

private theorem ordinary_signText {g : Bytes} {negative : Bool} (h : Numeral.SignText g negative) :
    ∀ b ∈ g, Ordinary b := by
  cases h <;> exact ordinary_of_all (by decide)

private theorem ordinary_exponentText {e : Bytes} {x : Option (Bool × Bytes)} (h : Numeral.ExponentText e x) :
    ∀ b ∈ e, Ordinary b := by
  cases h with
  | none => exact ordinary_of_all (by decide)
  | @digits m _ _ _ _ hm hg hd hds =>
    have hletter : Ordinary m := by rcases hm with rfl | rfl <;> decide
    exact List.forall_mem_cons.mpr ⟨hletter, List.forall_mem_append.mpr
      ⟨ordinary_signText hg, List.forall_mem_cons.mpr ⟨ordinary_of_isDigit hd, ordinary_digits hds⟩⟩⟩

private theorem ordinary_written {e : Bytes} {x : Numeral} (h : Numeral.Written e x) : ∀ b ∈ e, Ordinary b := by
  have hparts {w f fs e : Bytes} {x : Option (Bool × Bytes)} (hw : Numeral.WholeText w)
      (hf : Numeral.FractionText f fs) (he : Numeral.ExponentText e x) : ∀ b ∈ w ++ (f ++ e), Ordinary b :=
    List.forall_mem_append.mpr ⟨ordinary_wholeText hw,
      List.forall_mem_append.mpr ⟨ordinary_fractionText hf, ordinary_exponentText he⟩⟩
  cases h with
  | positive hw hf he => exact hparts hw hf he
  | negative hw hf he => exact List.forall_mem_cons.mpr ⟨by decide, hparts hw hf he⟩

theorem over_blank {w : Bytes} (hw : Blank w) (open_ : List Bracket) :
    (Scan.outside open_).over w = some (.outside open_) :=
  over_ordinary (fun b hb => ordinary_of_isBlank (hw b hb)) open_

private theorem step_quoted {b : UInt8} (hq : b ≠ '"'.toUInt8) (hs : b ≠ '\\'.toUInt8) (open_ : List Bracket) :
    (Scan.quoted open_).step b = some (.quoted open_) := by
  simp [Scan.step, hq, hs]

private theorem step_quote (open_ : List Bracket) : (Scan.outside open_).step '"'.toUInt8 = some (.quoted open_) := by
  cases open_ <;> rfl

/-- A digit in base sixteen neither ends a string nor escapes. -/
private theorem step_hexDigit {b : UInt8} {n : Nat} (h : hexValue? b = some n) (open_ : List Bracket) :
    (Scan.quoted open_).step b = some (.quoted open_) := by
  apply step_quoted
  · rintro rfl
    cases h
  · rintro rfl
    cases h

private theorem over_quad {q : Bytes} {n : Nat} (h : Quad q n) (open_ : List Bracket) :
    (Scan.quoted open_).over q = some (.quoted open_) := by
  obtain ⟨a, b, c, d, rfl, hn⟩ := h
  unfold hexQuad? at hn
  split at hn
  · next ha hb hc hd =>
    rw [Scan.over_cons_of_eq (step_hexDigit ha open_), Scan.over_cons_of_eq (step_hexDigit hb open_),
      Scan.over_cons_of_eq (step_hexDigit hc open_), Scan.over_cons_of_eq (step_hexDigit hd open_), Scan.over_nil]
  · cases hn

private theorem over_scans {e : Bytes} (h : Scans e) (open_ : List Bracket) :
    (Scan.quoted open_).over e = some (.quoted open_) := by
  induction h with
  | done => rfl
  | plain hb _ ih =>
    rw [Scan.over_cons_of_eq (step_quoted hb.1 hb.2.1 open_)]
    exact ih
  | escape hx _ ih =>
    have hslash : (Scan.quoted open_).step '\\'.toUInt8 = some (.escaped open_) := rfl
    rw [Scan.over_cons_of_eq hslash]
    cases hx with
    | short _ => exact ih
    | numbered hq =>
      have hu : (Scan.escaped open_).step 'u'.toUInt8 = some (.quoted open_) := rfl
      rw [List.cons_append, Scan.over_cons_of_eq hu, Scan.over_append_of_eq (over_quad hq open_)]
      exact ih

/-- A string in its quotes, and what comes after it. -/
private theorem over_string {k : Bytes} (h : Scans k) (open_ : List Bracket) (r : Bytes) :
    (Scan.outside open_).over ('"'.toUInt8 :: (k ++ '"'.toUInt8 :: r)) = (Scan.outside open_).over r := by
  have hend : (Scan.quoted open_).step '"'.toUInt8 = some (.outside open_) := rfl
  rw [Scan.over_cons_of_eq (step_quote open_), Scan.over_append_of_eq (over_scans h open_), Scan.over_cons_of_eq hend]

private theorem over_scalarForm {e : Bytes} (h : ScalarForm e) (open_ : List Bracket) :
    (Scan.outside open_).over e = some (.outside open_) := by
  cases h with
  | null => exact over_ordinary (ordinary_of_all (by decide)) open_
  | true => exact over_ordinary (ordinary_of_all (by decide)) open_
  | false => exact over_ordinary (ordinary_of_all (by decide)) open_
  | string hs => rw [over_string hs, Scan.over_nil]
  | number hx => exact over_ordinary (ordinary_written hx) open_

theorem step_opening (k : Bracket) (open_ : List Bracket) :
    (Scan.outside open_).step k.opening = some (.outside (k :: open_)) := by
  cases k <;> cases open_ <;> rfl

theorem step_closing_inside (k : Bracket) (outer : List Bracket) :
    (Scan.outside (k :: outer)).step k.closing = some (.outside outer) := by
  cases k <;> rfl

/-- Inside a bracket a gap with its comma is passed over. -/
private theorem over_gap {first : Bool} {g : Bytes} (hg : Gap first g) (k : Bracket) (outer : List Bracket) :
    (Scan.outside (k :: outer)).over g = some (.outside (k :: outer)) := by
  cases hg with
  | first hw => exact over_blank hw _
  | next hv hw =>
    have hcomma : (Scan.outside (k :: outer)).step ','.toUInt8 = some (.outside (k :: outer)) := by cases k <;> rfl
    rw [Scan.over_append_of_eq (over_blank hv _), Scan.over_cons_of_eq hcomma]
    exact over_blank hw _

/-- A scan passes over a part of a document, and closes the bracket that the part stands in. -/
private def Part.ScannedOver : Part → Bytes → Prop
  | .value, e => ∀ open_, (Scan.outside open_).over e = some (.outside open_)
  | .inside k _, t => ∀ outer, (Scan.outside (k :: outer)).over t = some (.outside outer)

private theorem scannedOver {p : Part} {t : Bytes} (h : WellFormed p t) : p.ScannedOver t := by
  induction h with
  | scalar he => exact over_scalarForm he
  | @bracket k _ _ ih =>
    intro open_
    rw [Scan.over_cons_of_eq (step_opening k open_)]
    exact ih open_
  | @close k _ w hw =>
    intro outer
    rw [Scan.over_append_of_eq (over_blank hw _), Scan.over_cons_of_eq (step_closing_inside k outer), Scan.over_nil]
  | item hg _ _ ihe iht =>
    intro outer
    rw [Scan.over_append_of_eq (over_gap hg .list outer), Scan.over_append_of_eq (ihe (.list :: outer))]
    exact iht outer
  | member hg hk hu hw _ _ ihe iht =>
    intro outer
    have hcolon : Ordinary ':'.toUInt8 := by decide
    rw [Scan.over_append_of_eq (over_gap hg .object outer), over_string hk, Scan.over_append_of_eq (over_blank hu _),
      Scan.over_cons_of_eq (step_ordinary hcolon _), Scan.over_append_of_eq (over_blank hw _),
      Scan.over_append_of_eq (ihe (.object :: outer))]
    exact iht outer

theorem Piece.append {e f : Bytes} (he : Piece e) (hf : Piece f) : Piece (e ++ f) := by
  rw [Piece, Scan.over_append_of_eq he]
  exact hf

theorem Blank.piece {w : Bytes} (h : Blank w) : Piece w := over_blank h []

/-- A well-formed value is never cut. -/
theorem IsValue.piece {e : Bytes} (h : IsValue e) : Piece e := scannedOver h []

end FlowCluster.Json
