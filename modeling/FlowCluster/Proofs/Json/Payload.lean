import FlowCluster.Proofs.Json.Content
import Mathlib.Data.List.Forall2

/-! # Values that are kept

A well-formed value that is read is read whole, so it is a text of what is kept of it. A value is not kept if it opens
too many brackets, if a number in it is out of range, or if a string in it is no text, and for no other reason; a value
that is skipped may be any of these. -/

namespace FlowCluster.Json

/-- Kept as a value, with no more than `d` brackets open in it. -/
def Kept (d : Nat) (e : Bytes) : Prop := ∃ v, ValueText d e v

theorem ScalarText.form {e : Bytes} {x : Scalar} (h : ScalarText e x) : ScalarForm e := by
  cases h with
  | null => exact .null
  | true => exact .true
  | false => exact .false
  | text ht =>
    obtain ⟨k, hk, rfl⟩ := ht
    exact .string hk.scans
  | number hx _ => exact .number hx

/-- What is kept is well formed. -/
theorem ValueText.isValue {d : Nat} {e : Bytes} {v : Value} (h : ValueText d e v) : IsValue e := by
  induction d generalizing e v with
  | zero =>
    obtain ⟨x, hx, -⟩ := h
    exact .scalar hx.form
  | succ d ih =>
    rcases h with ⟨x, hx, -⟩ | ⟨t, xs, ht, rfl, -⟩ | ⟨t, ms, ht, rfl, -⟩
    · exact .scalar hx.form
    · exact ht.isValue fun _ _ he => ih he
    · exact ht.isValue fun _ _ _ he => ih he

/-- Where no bracket begins, what is read as a value is a scalar. -/
private theorem scalar_of_value {d : Nat} {w s q : Bytes} {b : UInt8} {v : Value} (hw : Blank w)
    (hb : isBlank b = false) (hl : b ≠ '['.toUInt8) (ho : b ≠ '\x7b'.toUInt8)
    (h : Takes (value d) (w ++ b :: s) v q) : ∃ x p, scalar b s = .ok (x, p) := by
  obtain ⟨hlt, h⟩ := h
  unfold value at h
  simp only [content_append hw hb, hl, ho, ↓reduceIte] at h
  split at h
  · cases h
  · next x p hx => exact ⟨x, p, hx⟩

/-- A string is kept if it is read. -/
private theorem kept_of_string {d : Nat} {w k r q : Bytes} {v : Value} (hw : Blank w) (hk : Scans k)
    (h : Takes (value d) (w ++ '"'.toUInt8 :: (k ++ '"'.toUInt8 :: r)) v q) :
    Kept d ('"'.toUInt8 :: (k ++ ['"'.toUInt8])) := by
  obtain ⟨x, p, hx⟩ := scalar_of_value hw (by decide) (by decide) (by decide) h
  have hn : '"'.toUInt8 ≠ 'n'.toUInt8 := by decide
  have ht : '"'.toUInt8 ≠ 't'.toUInt8 := by decide
  have hf : '"'.toUInt8 ≠ 'f'.toUInt8 := by decide
  simp only [scalar, hn, ht, hf, ↓reduceIte] at hx
  split at hx
  · cases hx
  · next t _ hstring =>
    obtain ⟨y, hy, heq⟩ := string_sound hstring
    have hsame : k = y := hk.append_inj hy.scans heq
    rw [hsame]
    exact ⟨_, (ScalarText.text ⟨y, hy, rfl⟩).valueText⟩

/-- A number is kept if it is read, and it is read to its end. -/
private theorem kept_of_number {d : Nat} {w e r q : Bytes} {y : Numeral} {v : Value} (hw : Blank w)
    (he : Numeral.Written e y) (hr : Apart r) (h : Takes (value d) (w ++ (e ++ r)) v q) : Kept d e := by
  cases hn : y.number? with
  | some n => exact ⟨_, (ScalarText.number he hn).valueText⟩
  | none =>
    obtain ⟨b, e', rfl, hb⟩ := he.begins
    obtain ⟨_, hread⟩ : ∃ h, Numeral.read .endInValue (b :: (e' ++ r)) = .ok (y, ⟨r, h⟩) :=
      Numeral.read_complete .endInValue he hr
    have h₁ := beginsNumeral_ne hb (c := 'n'.toUInt8) (by decide)
    have h₂ := beginsNumeral_ne hb (c := 't'.toUInt8) (by decide)
    have h₃ := beginsNumeral_ne hb (c := 'f'.toUInt8) (by decide)
    have h₄ := beginsNumeral_ne hb (c := '"'.toUInt8) (by decide)
    rw [List.cons_append] at h
    obtain ⟨x, p, hx⟩ := scalar_of_value hw (not_isBlank_of_beginsNumeral hb) (beginsNumeral_ne hb (by decide))
      (beginsNumeral_ne hb (by decide)) h
    simp only [scalar, h₁, h₂, h₃, h₄, hb, ↓reduceIte, number, hread, hn] at hx
    cases hx

/-- Of two texts that go on the same way, and that a scan passes over alike, neither goes on longer. -/
private theorem skip_append_inj {e f r q : Bytes} (hr : ∃ h, skip (e ++ r) = .ok ⟨r, h⟩)
    (hq : ∃ h, skip (f ++ q) = .ok ⟨q, h⟩) (h : e ++ r = f ++ q) : e = f ∧ r = q := by
  rw [← h] at hq
  obtain ⟨_, hr⟩ := hr
  obtain ⟨_, hq⟩ := hq
  obtain rfl : r = q := Rest.mk.inj (Except.ok.inj (hr.symm.trans hq))
  exact ⟨List.append_cancel_right h, rfl⟩

/-- Two values in brackets at the front of one text are the same. -/
private theorem bracket_append_inj {k k' : Bracket} {t t' r q : Bytes} (ht : WellFormed (.inside k true) t)
    (ht' : WellFormed (.inside k' true) t') (h : k.opening :: (t ++ r) = k'.opening :: (t' ++ q)) :
    k.opening :: t = k'.opening :: t' :=
  (skip_append_inj (skip_bracket_complete blank_nil ht r) (skip_bracket_complete blank_nil ht' q) h).1

/-- A value in brackets is kept if it is read, and it is read to its closing bracket. -/
private theorem kept_of_bracket {d : Nat} {k : Bracket} {w t r q : Bytes} {v : Value} (hw : Blank w)
    (ht : WellFormed (.inside k true) t) (h : Takes (value d) (w ++ k.opening :: (t ++ r)) v q) :
    Kept d (k.opening :: t) := by
  obtain ⟨w', e, hw', he, heq⟩ := (value_reads d).sound h
  have hopen : Starts (k.opening :: (t ++ r)) := ⟨_, _, rfl, isBlank_opening k, by cases k <;> decide⟩
  obtain ⟨-, heq⟩ := blank_append_inj hw hw' hopen (((value_reads d).starts he).append _) heq
  have hscalar {x : Scalar} (hx : ScalarText e x) : False := by
    obtain ⟨b, e', rfl, -, -, hl, ho, -⟩ := scalar_complete hx
    have hb : k.opening = b := (List.cons.inj heq).1
    cases k with
    | list => exact hl hb.symm
    | object => exact ho hb.symm
  have hkept : Kept d e := ⟨v, he⟩
  cases d with
  | zero =>
    obtain ⟨x, hx, -⟩ := he
    exact (hscalar hx).elim
  | succ d =>
    rcases he with ⟨x, hx, -⟩ | ⟨t', xs, ht', rfl, -⟩ | ⟨t', ms, ht', rfl, -⟩
    · exact (hscalar hx).elim
    · have hinside := ht'.wellFormed fun _ _ he => he.isValue
      have hsame : k.opening :: t = Bracket.list.opening :: t' := bracket_append_inj ht hinside heq
      rwa [hsame]
    · have hinside := ht'.wellFormed fun _ _ _ he => he.isValue
      have hsame : k.opening :: t = Bracket.object.opening :: t' := bracket_append_inj ht hinside heq
      rwa [hsame]

/-- A well-formed value is kept if it is read at all. -/
theorem IsValue.kept {d : Nat} {w e r q : Bytes} {v : Value} (he : IsValue e) (hw : Blank w) (hr : Apart r)
    (h : Takes (value d) (w ++ (e ++ r)) v q) : Kept d e := by
  cases he with
  | bracket ht => exact kept_of_bracket hw ht h
  | scalar hs =>
    cases hs with
    | null => exact ⟨_, ScalarText.null.valueText⟩
    | true => exact ⟨_, ScalarText.true.valueText⟩
    | false => exact ⟨_, ScalarText.false.valueText⟩
    | number hx => exact kept_of_number hw hx hr h
    | string hk =>
      rw [List.cons_append, List.append_assoc, List.singleton_append] at h
      exact kept_of_string hw hk h

/-- Members whose values have something else made of them, one by one. -/
theorem Members.exists_forall₂ {α β : Type} {R : String → Bytes → α → Prop} {R' : String → Bytes → β → Prop}
    {Q : String × α → String × β → Prop} {first : Bool} {t : Bytes} {ms : List (String × α)} (h : Members R first t ms)
    (hQ : ∀ m ∈ ms, ∀ e, R m.1 e m.2 → ∃ y, R' m.1 e y ∧ Q m (m.1, y)) :
    ∃ ns, Members R' first t ns ∧ List.Forall₂ Q ms ns := by
  induction h with
  | close hw => exact ⟨[], .close hw, .nil⟩
  | @member _ _ _ _ _ _ _ key x ms hg hk hu hw he _ ih =>
    obtain ⟨hfirst, hrest⟩ := List.forall_mem_cons.mp hQ
    obtain ⟨y, hy, hq⟩ := hfirst _ he
    obtain ⟨ns, hns, hall⟩ := ih hrest
    exact ⟨(key, y) :: ns, .member hg hk hu hw hy hns, .cons hq hall⟩

/-! ## What a value is composed of -/

/-- What parts of a document are composed of: how many brackets are open in them at once, besides those around them, and
the scalars and keys that stand in them. -/
inductive Composed : Part → Bytes → Nat → List Bytes → Prop
  | scalar {e : Bytes} : ScalarForm e → Composed .value e 0 [e]
  | bracket {k : Bracket} {t : Bytes} {n : Nat} {xs : List Bytes} :
      Composed (.inside k true) t n xs → Composed .value (k.opening :: t) (n + 1) xs
  | close {k : Bracket} {first : Bool} {w : Bytes} : Blank w → Composed (.inside k first) (w ++ [k.closing]) 0 []
  | item {first : Bool} {g e t : Bytes} {n m : Nat} {xs ys : List Bytes} :
      Gap first g → Composed .value e n xs → Composed (.inside .list false) t m ys →
      Composed (.inside .list first) (g ++ (e ++ t)) (max n m) (xs ++ ys)
  | member {first : Bool} {g k u w e t : Bytes} {n m : Nat} {xs ys : List Bytes} :
      Gap first g → Scans k → Blank u → Blank w → Composed .value e n xs → Composed (.inside .object false) t m ys →
      Composed (.inside .object first)
        (g ++ '"'.toUInt8 :: (k ++ '"'.toUInt8 :: (u ++ ':'.toUInt8 :: (w ++ (e ++ t))))) (max n m)
        (('"'.toUInt8 :: (k ++ ['"'.toUInt8])) :: (xs ++ ys))

/-- A scalar or a key that can be kept: a number is in range, and a string denotes a text. -/
structure Fits (x : Bytes) : Prop where
  number : ∀ y, Numeral.Written x y → y.number? ≠ none
  string : ∀ k, Scans k → x = '"'.toUInt8 :: (k ++ ['"'.toUInt8]) → ∃ t, Quoted x t

section

variable {p : Part} {t e : Bytes} {n m d : Nat} {xs ys : List Bytes}

theorem Composed.wellFormed (h : Composed p t n xs) : WellFormed p t := by
  induction h with
  | scalar he => exact .scalar he
  | bracket _ ih => exact .bracket ih
  | close hw => exact .close hw
  | item hg _ _ he ht => exact .item hg he ht
  | member hg hk hu hw _ _ he ht => exact .member hg hk hu hw he ht

theorem Composed.isValue (h : Composed .value e n xs) : IsValue e := h.wellFormed

/-- Values that go on the same way, with nothing that would lengthen a number, are the same. -/
theorem IsValue.append_inj {e f r q : Bytes} (he : IsValue e) (hf : IsValue f) (hr : Apart r) (hq : Apart q)
    (h : e ++ r = f ++ q) : e = f ∧ r = q :=
  skip_append_inj (skip_complete blank_nil he hr) (skip_complete blank_nil hf hq) h

private theorem starts_cons {b : UInt8} (hb : isBlank b = false) (hne : b ≠ ']'.toUInt8) (s : Bytes) : Starts (b :: s) :=
  ⟨b, s, rfl, hb, hne⟩

theorem Gap.append_inj {first : Bool} {g g' r q : Bytes} (hg : Gap first g) (hg' : Gap first g') (hr : Starts r)
    (hq : Starts q) (h : g ++ r = g' ++ q) : r = q := by
  cases hg with
  | first hw =>
    cases hg' with
    | first hw' => exact (blank_append_inj hw hw' hr hq h).2
  | next hv hw =>
    cases hg' with
    | next hv' hw' =>
      rw [List.append_assoc, List.append_assoc] at h
      obtain ⟨-, hrest⟩ := blank_append_inj hv hv' (starts_cons (by decide) (by decide) _)
        (starts_cons (by decide) (by decide) _) h
      exact (blank_append_inj hw hw' hr hq (List.cons.inj hrest).2).2

/-- The end of a bracket is not another item. -/
theorem Gap.append_ne_close {k : Bracket} {first : Bool} {g w r : Bytes} (hg : Gap first g) (hw : Blank w)
    (hr : ∃ b q, r = b :: q ∧ isBlank b = false ∧ b ≠ k.closing) : w ++ [k.closing] ≠ g ++ r := by
  obtain ⟨b, q, rfl, hb, hk⟩ := hr
  have hnext {v s : Bytes} {c : UInt8} (hv : Blank v) (hc : isBlank c = false) (hne : c ≠ k.closing) :
      w ++ [k.closing] ≠ v ++ c :: s := by
    intro h
    have hcontent := congrArg (fun s => (content s).bytes) h
    simp only [content_append hw (isBlank_closing k), content_append hv hc] at hcontent
    exact hne (List.cons.inj hcontent).1.symm
  cases hg with
  | first hv => exact hnext hv hb hk
  | next hu hv =>
    rw [List.append_assoc]
    exact hnext hu (by decide) (by cases k <;> decide)

/-- An item and the rest of its bracket are told apart. -/
private theorem item_inj {k : Bracket} {e e' t t' : Bytes} (he : IsValue e) (he' : IsValue e')
    (ht : WellFormed (.inside k false) t) (ht' : WellFormed (.inside k false) t') (h : e ++ t = e' ++ t') :
    e = e' ∧ t = t' := by
  have hapart {t : Bytes} (ht : WellFormed (.inside k false) t) : Apart t := by simpa using ht.apart []
  exact he.append_inj he' (hapart ht) (hapart ht') h

/-- A value is composed in one way only. -/
theorem Composed.unique {n' : Nat} {xs' : List Bytes} (h : Composed p t n xs) (h' : Composed p t n' xs') :
    n = n' ∧ xs = xs' := by
  have hscalar {k : Bracket} {t e : Bytes} (he : ScalarForm e) : k.opening :: t ≠ e := by
    rintro rfl
    obtain ⟨b, e', heq, -, -, hopening, -⟩ := skipScalar_complete he
    rw [← (List.cons.inj heq).1, opening?_eq_some_iff.mpr rfl] at hopening
    cases hopening
  have hquote (s : Bytes) : ∃ b q, '"'.toUInt8 :: s = b :: q ∧ isBlank b = false ∧ b ≠ Bracket.object.closing :=
    ⟨_, s, rfl, by decide, by decide⟩
  induction h generalizing n' xs' with
  | @scalar e he =>
    generalize hs : e = s at h'
    cases h' with
    | scalar => exact ⟨rfl, rfl⟩
    | bracket => exact absurd hs.symm (hscalar he)
  | @bracket k t n xs h ih =>
    generalize hs : k.opening :: t = s at h'
    cases h' with
    | scalar he => exact absurd hs (hscalar he)
    | @bracket k' t' n' xs' h' =>
      obtain ⟨hk, rfl⟩ := List.cons.inj hs
      have hsame : some k = some k' := by
        rw [← opening?_eq_some_iff.mpr hk, opening?_eq_some_iff.mpr rfl]
      obtain rfl := Option.some.inj hsame
      obtain ⟨rfl, rfl⟩ := ih h'
      exact ⟨rfl, rfl⟩
  | @close k first w hw =>
    generalize hs : w ++ [k.closing] = s at h'
    cases h' with
    | close => exact ⟨rfl, rfl⟩
    | item hg he ht => exact absurd hs (hg.append_ne_close hw (he.isValue.starts.append _))
    | member hg hk hu hv he ht => exact absurd hs (hg.append_ne_close hw (hquote _))
  | @item first g e t n m xs ys hg he ht ihe iht =>
    generalize hs : g ++ (e ++ t) = s at h'
    cases h' with
    | close hw => exact absurd hs.symm (hg.append_ne_close hw (he.isValue.starts.append t))
    | item hg' he' ht' =>
      have hrest := hg.append_inj hg' (he.isValue.starts.append _) (he'.isValue.starts.append _) hs
      obtain ⟨rfl, rfl⟩ := item_inj he.isValue he'.isValue ht.wellFormed ht'.wellFormed hrest
      obtain ⟨rfl, rfl⟩ := ihe he'
      obtain ⟨rfl, rfl⟩ := iht ht'
      exact ⟨rfl, rfl⟩
  | @member first g k u v e t n m xs ys hg hk hu hv he ht ihe iht =>
    generalize hs : g ++ '"'.toUInt8 :: (k ++ '"'.toUInt8 :: (u ++ ':'.toUInt8 :: (v ++ (e ++ t)))) = s at h'
    cases h' with
    | close hw => exact absurd hs.symm (hg.append_ne_close hw (hquote _))
    | member hg' hk' hu' hv' he' ht' =>
      have hmember := hg.append_inj hg' (starts_cons (by decide) (by decide) _) (starts_cons (by decide) (by decide) _) hs
      obtain rfl := hk.append_inj hk' (List.cons.inj hmember).2
      have hcolon := (List.cons.inj (List.append_cancel_left (List.cons.inj hmember).2)).2
      obtain ⟨-, hcolon⟩ := blank_append_inj hu hu' (starts_cons (by decide) (by decide) _)
        (starts_cons (by decide) (by decide) _) hcolon
      obtain ⟨-, hrest⟩ := blank_append_inj hv hv' (he.isValue.starts.append _) (he'.isValue.starts.append _)
        (List.cons.inj hcolon).2
      obtain ⟨rfl, rfl⟩ := item_inj he.isValue he'.isValue ht.wellFormed ht'.wellFormed hrest
      obtain ⟨rfl, rfl⟩ := ihe he'
      obtain ⟨rfl, rfl⟩ := iht ht'
      exact ⟨rfl, rfl⟩

/-! ## What is kept -/

private theorem written_ne {x : Numeral} {c : UInt8} {q : Bytes} (h : Numeral.Written e x)
    (hc : beginsNumeral c = false) : e ≠ c :: q := by
  rintro rfl
  obtain ⟨b, r, heq, hb⟩ := h.begins
  rw [(List.cons.inj heq).1, hb] at hc
  cases hc

theorem Numeral.Written.unique {x y : Numeral} (h : Written e x) (h' : Written e y) : x = y := by
  have hx : ∃ h, read .badNumber (e ++ []) = .ok (x, ⟨[], h⟩) := read_complete .badNumber h apart_nil
  have hy : ∃ h, read .badNumber (e ++ []) = .ok (y, ⟨[], h⟩) := read_complete .badNumber h' apart_nil
  obtain ⟨_, hx⟩ := hx
  obtain ⟨_, hy⟩ := hy
  exact (Prod.mk.inj (Except.ok.inj (hx.symm.trans hy))).1

/-- A scalar that is kept fits. -/
theorem ScalarText.fits {x : Scalar} (h : ScalarText e x) : Fits e := by
  have hword {c : UInt8} {q : Bytes} (heq : e = c :: q) (hc : beginsNumeral c = Bool.false) (hne : c ≠ '"'.toUInt8) :
      Fits e :=
    ⟨fun y hy => absurd heq (written_ne hy hc), fun k _ hk => absurd (List.cons.inj (heq.symm.trans hk)).1 hne⟩
  cases h with
  | null => exact hword encode_null (by decide) (by decide)
  | true => exact hword encode_true (by decide) (by decide)
  | false => exact hword encode_false (by decide) (by decide)
  | text ht =>
    refine ⟨fun y hy => ?_, fun _ _ _ => ⟨_, ht⟩⟩
    obtain ⟨k, -, rfl⟩ := ht
    exact absurd rfl (written_ne hy (by decide))
  | number hx hn =>
    refine ⟨fun y hy => ?_, fun k _ hk => absurd hk (written_ne hx (by decide))⟩
    rw [hy.unique hx, hn]
    exact Option.some_ne_none _

/-- A scalar that fits is kept. -/
theorem ScalarForm.kept (h : ScalarForm e) (hfits : Fits e) : Kept d e := by
  cases h with
  | null => exact ⟨_, ScalarText.null.valueText⟩
  | true => exact ⟨_, ScalarText.true.valueText⟩
  | false => exact ⟨_, ScalarText.false.valueText⟩
  | string hk =>
    obtain ⟨t, ht⟩ := hfits.string _ hk rfl
    exact ⟨_, (ScalarText.text ht).valueText⟩
  | number hx =>
    obtain ⟨n, hn⟩ := Option.ne_none_iff_exists'.mp (hfits.number _ hx)
    exact ⟨_, (ScalarText.number hx hn).valueText⟩

/-- Kept as a part of a document: as one value, or as what is inside a bracket. -/
def Part.Kept (d : Nat) : Part → Bytes → Prop
  | .value, e => Json.Kept d e
  | .inside .list first, t => ∃ vs, Items (ValueText d) first t vs
  | .inside .object first, t => ∃ ms, Members (fun _ => ValueText d) first t ms

/-- What has few enough brackets, and scalars and keys that fit, is kept. -/
theorem Composed.kept (h : Composed p t n xs) (hn : n ≤ d) (hxs : ∀ x ∈ xs, Fits x) : p.Kept d t := by
  induction h generalizing d with
  | scalar he => exact he.kept (hxs _ (List.mem_singleton.mpr rfl))
  | @bracket k t n xs _ ih =>
    obtain ⟨d, rfl⟩ := Nat.exists_eq_succ_of_ne_zero (Nat.ne_of_gt (Nat.lt_of_lt_of_le (Nat.succ_pos n) hn))
    cases k with
    | list =>
      obtain ⟨vs, hvs⟩ := ih (Nat.le_of_succ_le_succ hn) hxs
      exact ⟨.list vs, .inr (.inl ⟨t, vs, hvs, rfl, rfl⟩)⟩
    | object =>
      obtain ⟨ms, hms⟩ := ih (Nat.le_of_succ_le_succ hn) hxs
      exact ⟨.object (inserted [] ms), .inr (.inr ⟨t, ms, hms, rfl, rfl⟩)⟩
  | @close k first w hw =>
    cases k with
    | list => exact ⟨[], .close hw⟩
    | object => exact ⟨[], .close hw⟩
  | item hg _ _ ihe iht =>
    obtain ⟨hn, hm⟩ := Nat.max_le.mp hn
    obtain ⟨hxs, hys⟩ := List.forall_mem_append.mp hxs
    obtain ⟨v, hv⟩ := ihe hn hxs
    obtain ⟨vs, hvs⟩ := iht hm hys
    exact ⟨v :: vs, .item hg hv hvs⟩
  | member hg hk hu hw _ _ ihe iht =>
    obtain ⟨hn, hm⟩ := Nat.max_le.mp hn
    obtain ⟨hkey, hrest⟩ := List.forall_mem_cons.mp hxs
    obtain ⟨hxs, hys⟩ := List.forall_mem_append.mp hrest
    obtain ⟨v, hv⟩ := ihe hn hxs
    obtain ⟨ms, hms⟩ := iht hm hys
    obtain ⟨key, k', hk', heq⟩ := hkey.string _ hk rfl
    obtain rfl := List.append_cancel_right (List.cons.inj heq).2
    exact ⟨(key, v) :: ms, .member hg hk' hu hw hv hms⟩

end

end FlowCluster.Json
