import FlowCluster.Json.Skip
import FlowCluster.Proofs.Json.Value

/-! # Well-formed values

The form of any value, of any depth, with numbers of any size and strings that need not be text. A scan passes over
exactly the well-formed values; `Closes` says how the text goes on that ends the brackets it stands inside. -/

namespace FlowCluster.Json

def Bracket.opening : Bracket → UInt8
  | .list => '['.toUInt8
  | .object => '\x7b'.toUInt8

/-- The form of a value without parts. -/
inductive ScalarForm : Bytes → Prop
  | null : ScalarForm (Text.Utf8.encode "null")
  | true : ScalarForm (Text.Utf8.encode "true")
  | false : ScalarForm (Text.Utf8.encode "false")
  | string {e : Bytes} : Scans e → ScalarForm ('"'.toUInt8 :: (e ++ ['"'.toUInt8]))
  | number {e : Bytes} {x : Numeral} : Numeral.Written e x → ScalarForm e

/-- Parts of a document: a value, or what is left inside a bracket, before the first item or after another. -/
inductive Part
  | value
  | inside (bracket : Bracket) (first : Bool)

/-- The form of the parts of a document. -/
inductive WellFormed : Part → Bytes → Prop
  | scalar {e : Bytes} : ScalarForm e → WellFormed .value e
  | bracket {k : Bracket} {t : Bytes} : WellFormed (.inside k true) t → WellFormed .value (k.opening :: t)
  | close {k : Bracket} {first : Bool} {w : Bytes} : Blank w → WellFormed (.inside k first) (w ++ [k.closing])
  | item {first : Bool} {g e t : Bytes} :
      Gap first g → WellFormed .value e → WellFormed (.inside .list false) t →
      WellFormed (.inside .list first) (g ++ (e ++ t))
  | member {first : Bool} {g k u w e t : Bytes} :
      Gap first g → Scans k → Blank u → Blank w → WellFormed .value e → WellFormed (.inside .object false) t →
      WellFormed (.inside .object first) (g ++ '"'.toUInt8 :: (k ++ '"'.toUInt8 :: (u ++ ':'.toUInt8 :: (w ++ (e ++ t)))))

def IsValue (e : Bytes) : Prop := WellFormed .value e

theorem isBlank_opening (k : Bracket) : isBlank k.opening = false := by cases k <;> decide

theorem isBlank_closing (k : Bracket) : isBlank k.closing = false := by cases k <;> decide

theorem opening?_eq_some_iff {b : UInt8} {k : Bracket} : opening? b = some k ↔ b = k.opening := by
  constructor
  · intro h
    unfold opening? at h
    split_ifs at h with hl ho
    · cases h
      exact hl
    · cases h
      exact ho
  · rintro rfl
    cases k <;> decide

theorem opening?_eq_none {b : UInt8} (hl : b ≠ '['.toUInt8) (ho : b ≠ '\x7b'.toUInt8) : opening? b = none := by
  simp [opening?, hl, ho]

theorem skipScalar_sound {b : UInt8} {r : Bytes} {q : Rest (b :: r)} (h : skipScalar b r = .ok q) :
    ∃ e, ScalarForm e ∧ b :: r = e ++ q.bytes := by
  unfold skipScalar at h
  split_ifs at h with h₁ h₂ h₃ h₄ h₅
  · split at h
    · simp at h
    · next t ht =>
      rw [Except.ok.injEq] at h
      subst h
      exact ⟨_, .null, by rw [encode_null, h₁, List.cons_append, ← word_sound ht]⟩
  · split at h
    · simp at h
    · next t ht =>
      rw [Except.ok.injEq] at h
      subst h
      exact ⟨_, .true, by rw [encode_true, h₂, List.cons_append, ← word_sound ht]⟩
  · split at h
    · simp at h
    · next t ht =>
      rw [Except.ok.injEq] at h
      subst h
      exact ⟨_, .false, by rw [encode_false, h₃, List.cons_append, ← word_sound ht]⟩
  · split at h
    · simp at h
    · next q' hq =>
      rw [Except.ok.injEq] at h
      subst h
      obtain ⟨e, he, hs⟩ := skipString_sound hq
      exact ⟨_, .string he, by simpa [h₄] using hs⟩
  · split at h
    · simp at h
    · next x q' hx =>
      rw [Except.ok.injEq] at h
      subst h
      obtain ⟨e, he, hs⟩ := Numeral.read_sound hx
      exact ⟨e, .number he, hs⟩

theorem skipScalar_complete {e : Bytes} (he : ScalarForm e) :
    ∃ b e', e = b :: e' ∧ isBlank b = false ∧ b ≠ ']'.toUInt8 ∧ opening? b = none ∧
      ∀ r, Apart r → ∃ h, skipScalar b (e' ++ r) = .ok ⟨r, h⟩ := by
  cases he with
  | null =>
    refine ⟨_, _, encode_null, by decide, by decide, by decide, fun r _ => ?_⟩
    obtain ⟨h, hw⟩ := word_complete (Text.Utf8.encode "ull") r
    exact ⟨Nat.lt_succ_of_le h, by simp [skipScalar, hw]⟩
  | true =>
    refine ⟨_, _, encode_true, by decide, by decide, by decide, fun r _ => ?_⟩
    obtain ⟨h, hw⟩ := word_complete (Text.Utf8.encode "rue") r
    have : 't'.toUInt8 ≠ 'n'.toUInt8 := by decide
    exact ⟨Nat.lt_succ_of_le h, by simp [skipScalar, this, hw]⟩
  | false =>
    refine ⟨_, _, encode_false, by decide, by decide, by decide, fun r _ => ?_⟩
    obtain ⟨h, hw⟩ := word_complete (Text.Utf8.encode "alse") r
    have h₁ : 'f'.toUInt8 ≠ 'n'.toUInt8 := by decide
    have h₂ : 'f'.toUInt8 ≠ 't'.toUInt8 := by decide
    exact ⟨Nat.lt_succ_of_le h, by simp [skipScalar, h₁, h₂, hw]⟩
  | string hs =>
    refine ⟨_, _, rfl, by decide, by decide, by decide, fun r _ => ?_⟩
    rw [List.append_assoc, List.singleton_append]
    obtain ⟨h, hs⟩ := skipString_complete hs r (Nat.le_refl _)
    have h₁ : '"'.toUInt8 ≠ 'n'.toUInt8 := by decide
    have h₂ : '"'.toUInt8 ≠ 't'.toUInt8 := by decide
    have h₃ : '"'.toUInt8 ≠ 'f'.toUInt8 := by decide
    exact ⟨Nat.lt_succ_of_lt h, by simp [skipScalar, h₁, h₂, h₃, hs, Rest.widen]⟩
  | @number _ x hx =>
    obtain ⟨b, q, rfl, hb⟩ := hx.begins
    refine ⟨b, q, rfl, not_isBlank_of_beginsNumeral hb, beginsNumeral_ne hb (by decide),
      opening?_eq_none (beginsNumeral_ne hb (by decide)) (beginsNumeral_ne hb (by decide)), fun r hr => ?_⟩
    obtain ⟨h, hx⟩ : ∃ h, Numeral.read .badNumber (b :: (q ++ r)) = .ok (x, ⟨r, h⟩) :=
      Numeral.read_complete .badNumber hx hr
    have h₁ := beginsNumeral_ne hb (c := 'n'.toUInt8) (by decide)
    have h₂ := beginsNumeral_ne hb (c := 't'.toUInt8) (by decide)
    have h₃ := beginsNumeral_ne hb (c := 'f'.toUInt8) (by decide)
    have h₄ := beginsNumeral_ne hb (c := '"'.toUInt8) (by decide)
    exact ⟨h, by simp only [skipScalar, h₁, h₂, h₃, h₄, hb, hx, ↓reduceIte]⟩

theorem IsValue.starts {e : Bytes} (h : IsValue e) : Starts e := by
  cases h with
  | scalar hs =>
    obtain ⟨b, e', rfl, hb, hc, -⟩ := skipScalar_complete hs
    exact ⟨b, e', rfl, hb, hc⟩
  | @bracket k t _ => exact ⟨_, t, rfl, isBlank_opening k, by cases k <;> decide⟩

theorem WellFormed.apart {k : Bracket} {t : Bytes} (h : WellFormed (.inside k false) t) (r : Bytes) :
    Apart (t ++ r) := by
  cases h with
  | close hw =>
    rw [List.append_assoc, List.singleton_append]
    exact apart_blank_append hw (apart_cons (by cases k <;> decide) _)
  | item hg =>
    rw [List.append_assoc]
    exact hg.apart _
  | member hg =>
    rw [List.append_assoc]
    exact hg.apart _

/-- What closes the open brackets, innermost first, each after an item. -/
def Closes : List Bracket → Bytes → Prop
  | [], t => t = []
  | k :: outer, t => ∃ t₁ t₂, WellFormed (.inside k false) t₁ ∧ Closes outer t₂ ∧ t = t₁ ++ t₂

/-- What is left of a value at a place inside the open brackets. -/
def Remains (open_ : List Bracket) : Place → Bytes → Prop
  | .value, t => ∃ w e t', Blank w ∧ IsValue e ∧ Closes open_ t' ∧ t = w ++ (e ++ t')
  | .key, t => ∃ v k u w e t', Blank v ∧ Scans k ∧ Blank u ∧ Blank w ∧ IsValue e ∧ Closes open_ t' ∧
      t = v ++ '"'.toUInt8 :: (k ++ '"'.toUInt8 :: (u ++ ':'.toUInt8 :: (w ++ (e ++ t'))))
  | .after, t => Closes open_ t

/-- An item and what follows it, behind a comma or first, are the rest of their bracket. -/
private theorem Remains.inside {k : Bracket} {outer : List Bracket} {t g : Bytes} {first : Bool}
    (h : Remains (k :: outer) k.itemPlace t) (hg : ∀ w, Blank w → Gap first (g ++ w)) :
    ∃ t₁ t₂, WellFormed (.inside k first) t₁ ∧ Closes outer t₂ ∧ g ++ t = t₁ ++ t₂ := by
  cases k with
  | list =>
    obtain ⟨w, e, t', hw, he, ⟨t₁, t₂, ht₁, ht₂, rfl⟩, rfl⟩ := h
    exact ⟨_, t₂, .item (hg w hw) he ht₁, ht₂, by simp⟩
  | object =>
    obtain ⟨v, k, u, w, e, t', hv, hk, hu, hw, he, ⟨t₁, t₂, ht₁, ht₂, rfl⟩, rfl⟩ := h
    exact ⟨_, t₂, .member (hg v hv) hk hu hw he ht₁, ht₂, by simp⟩

private theorem skipFrom_sound {origin s : Bytes} {place : Place} {open_ : List Bracket}
    {h : s.length + place.spent ≤ origin.length} {r : Rest origin} (hs : skipFrom origin place open_ s h = .ok r) :
    ∃ t, Remains open_ place t ∧ s = t ++ r.bytes := by
  -- The induction is on the scan itself; each step puts back in front what it has passed over.
  fun_induction skipFrom origin place open_ s h with
  | case1 => simp at hs
  | case2 => simp at hs
  | case3 open_ s _ b p _ hc _ k hk q _ _ hd ih =>
    obtain ⟨t, ht, hq⟩ := ih hs
    obtain ⟨v, hv, he⟩ := eq_append_of_content hc
    obtain ⟨w, hw, hp⟩ := eq_append_of_content hd
    refine ⟨_, ⟨v, _, t, hv, .bracket (k := k) (.close hw), ht, rfl⟩, ?_⟩
    rw [he, opening?_eq_some_iff.mp hk, hp, hq]
    simp
  | case4 open_ s _ b p _ hc _ k hk c q _ _ _ _ ih =>
    obtain ⟨t, ht, hp⟩ := ih hs
    obtain ⟨v, hv, he⟩ := eq_append_of_content hc
    obtain ⟨t₁, t₂, ht₁, ht₂, rfl⟩ := ht.inside (g := []) fun w hw => .first hw
    refine ⟨_, ⟨v, _, t₂, hv, .bracket ht₁, ht₂, rfl⟩, ?_⟩
    rw [he, opening?_eq_some_iff.mp hk, hp]
    simp
  | case5 => simp at hs
  | case6 open_ s _ b p _ hc _ _ q hq _ ih =>
    obtain ⟨t, ht, hr⟩ := ih hs
    obtain ⟨v, hv, he⟩ := eq_append_of_content hc
    obtain ⟨e, hs', hbp⟩ := skipScalar_sound hq
    refine ⟨_, ⟨v, e, t, hv, .scalar hs', ht, rfl⟩, ?_⟩
    rw [he, hbp, hr]
    simp
  | case7 => simp at hs
  | case8 => simp at hs
  | case9 => simp at hs
  | case10 open_ s _ p q hq c hc _ _ hd _ ih =>
    obtain ⟨_, ⟨w, e, t, hw, he, ht, rfl⟩, hr⟩ := ih hs
    obtain ⟨v, hv, hs'⟩ := eq_append_of_content hd
    obtain ⟨k, hk, hp⟩ := skipString_sound hq
    obtain ⟨u, hu, hc⟩ := colon_sound hc
    refine ⟨_, ⟨v, k, u, w, e, t, hv, hk, hu, hw, he, ht, rfl⟩, ?_⟩
    rw [hs', hp, hc, hr]
    simp
  | case11 => simp at hs
  | case12 s _ _ =>
    rw [Except.ok.injEq] at hs
    subst hs
    exact ⟨[], rfl, rfl⟩
  | case13 => simp at hs
  | case14 s _ k outer p _ _ hc _ ih =>
    obtain ⟨t, ht, hp⟩ := ih hs
    obtain ⟨v, hv, he⟩ := eq_append_of_content hc
    have hg (w : Bytes) (hw : Blank w) : Gap false (v ++ [','.toUInt8] ++ w) := by
      rw [List.append_assoc, List.singleton_append]
      exact .next hv hw
    obtain ⟨t₁, t₂, ht₁, ht₂, htt⟩ := ht.inside hg
    refine ⟨_, ⟨t₁, t₂, ht₁, ht₂, rfl⟩, ?_⟩
    rw [he, hp, ← htt]
    simp
  | case15 s _ k outer p _ _ hc _ _ ih =>
    obtain ⟨t, ht, hp⟩ := ih hs
    obtain ⟨v, hv, he⟩ := eq_append_of_content hc
    refine ⟨_, ⟨_, t, .close hv, ht, rfl⟩, ?_⟩
    rw [he, hp]
    simp
  | case16 => simp at hs

/-- A scan from a place, inside the open brackets, leaves `q`. -/
private def Passes (open_ : List Bracket) (place : Place) (s q : Bytes) : Prop :=
  ∀ origin h, ∃ h', skipFrom origin place open_ s h = .ok ⟨q, h'⟩

private theorem passes_scalar {open_ : List Bracket} {w e r q : Bytes} (hw : Blank w) (he : ScalarForm e) (hr : Apart r)
    (h : Passes open_ .after r q) : Passes open_ .value (w ++ (e ++ r)) q := by
  intro origin hs
  obtain ⟨b, e', rfl, hb, -, hn, hq⟩ := skipScalar_complete he
  obtain ⟨h₁, hq⟩ := hq r hr
  obtain ⟨h₂, hp⟩ := h origin (by simp [Place.spent] at hs ⊢; omega)
  rw [skipFrom]
  simp only [List.cons_append, content_append hw hb, hn, hq, hp]
  exact ⟨h₂, trivial⟩

/-- A bracket that is not closed at once is passed over with its items. -/
private theorem passes_opening {open_ : List Bracket} {k : Bracket} {w v s q : Bytes} {b : UInt8} (hw : Blank w)
    (hv : Blank v) (hb : isBlank b = false) (hk : b ≠ k.closing)
    (h : Passes (k :: open_) k.itemPlace (v ++ b :: s) q) :
    Passes open_ .value (w ++ k.opening :: (v ++ b :: s)) q := by
  intro origin hs
  obtain ⟨h', hp⟩ := h origin (by cases k <;> simp [Place.spent, Bracket.itemPlace] at hs ⊢ <;> omega)
  rw [skipFrom]
  simp only [content_append hw (isBlank_opening k), opening?_eq_some_iff.mpr rfl, content_append hv hb, hk, hp,
    ↓reduceIte]
  exact ⟨h', trivial⟩

private theorem passes_empty {open_ : List Bracket} {k : Bracket} {w v r q : Bytes} (hw : Blank w) (hv : Blank v)
    (h : Passes open_ .after r q) : Passes open_ .value (w ++ k.opening :: (v ++ k.closing :: r)) q := by
  intro origin hs
  obtain ⟨h', hp⟩ := h origin (by simp [Place.spent] at hs ⊢; omega)
  rw [skipFrom]
  simp only [content_append hw (isBlank_opening k), opening?_eq_some_iff.mpr rfl,
    content_append hv (isBlank_closing k), hp, ↓reduceIte]
  exact ⟨h', trivial⟩

private theorem passes_comma {outer : List Bracket} {k : Bracket} {v s q : Bytes} (hv : Blank v)
    (h : Passes (k :: outer) k.itemPlace s q) : Passes (k :: outer) .after (v ++ ','.toUInt8 :: s) q := by
  intro origin hs
  obtain ⟨h', hp⟩ := h origin (by cases k <;> simp [Place.spent, Bracket.itemPlace] at hs ⊢ <;> omega)
  rw [skipFrom]
  simp only [content_append hv (b := ','.toUInt8) (by decide), hp, ↓reduceIte]
  exact ⟨h', trivial⟩

private theorem passes_closing {outer : List Bracket} {k : Bracket} {w r q : Bytes} (hw : Blank w)
    (h : Passes outer .after r q) : Passes (k :: outer) .after (w ++ k.closing :: r) q := by
  intro origin hs
  obtain ⟨h', hp⟩ := h origin (by simp [Place.spent] at hs ⊢; omega)
  have : k.closing ≠ ','.toUInt8 := by cases k <;> decide
  rw [skipFrom]
  simp only [content_append hw (isBlank_closing k), this, hp, ↓reduceIte]
  exact ⟨h', trivial⟩

private theorem passes_key {open_ : List Bracket} {w k u s q : Bytes} (hw : Blank w) (hk : Scans k) (hu : Blank u)
    (h : Passes open_ .value s q) :
    Passes open_ .key (w ++ '"'.toUInt8 :: (k ++ '"'.toUInt8 :: (u ++ ':'.toUInt8 :: s))) q := by
  intro origin hs
  obtain ⟨h', hp⟩ := h origin (by simp [Place.spent] at hs ⊢; omega)
  obtain ⟨_, hk⟩ := skipString_complete hk (u ++ ':'.toUInt8 :: s) (Nat.le_refl _)
  obtain ⟨_, hc⟩ := colon_complete hu s
  rw [skipFrom]
  simp only [content_append hw (b := '"'.toUInt8) (by decide), hk, hc, hp, ↓reduceIte]
  exact ⟨h', trivial⟩

/-- A part of a document is passed over inside any open brackets. -/
private def Part.Passed : Part → Bytes → Prop
  | .value, e => ∀ open_ w r q, Blank w → Apart r → Passes open_ .after r q → Passes open_ .value (w ++ (e ++ r)) q
  | .inside k true, t => ∀ open_ w r q, Blank w → Passes open_ .after r q →
      Passes open_ .value (w ++ k.opening :: (t ++ r)) q
  | .inside k false, t => ∀ open_ r q, Passes open_ .after r q → Passes (k :: open_) .after (t ++ r) q

private theorem passed {p : Part} {t : Bytes} (h : WellFormed p t) : p.Passed t := by
  induction h with
  | scalar he => exact fun _ _ _ _ hw hr hq => passes_scalar hw he hr hq
  | bracket _ ih => exact fun _ _ _ _ hw _ hq => by simpa using ih _ _ _ _ hw hq
  | @close k first v hv =>
    cases first with
    | true => exact fun _ _ _ _ hw hq => by simpa using passes_empty hw hv hq
    | false => exact fun _ _ _ hq => by simpa using passes_closing hv hq
  | @item first g e t hg he ht ihe iht =>
    obtain ⟨b, e', rfl, hb, hc⟩ := IsValue.starts he
    cases hg with
    | first hv =>
      intro open_ w r q hw hq
      have hs := ihe _ _ _ _ hv (ht.apart r) (iht _ _ _ hq)
      simpa using passes_opening (k := .list) hw hv hb hc (by simpa [Bracket.itemPlace] using hs)
    | next hv hv' =>
      intro open_ r q hq
      have hs := ihe _ _ _ _ hv' (ht.apart r) (iht _ _ _ hq)
      simpa using passes_comma (k := .list) hv hs
  | @member first g k u v e t hg hk hu hv he ht ihe iht =>
    cases hg with
    | first hg =>
      intro open_ w r q hw hq
      have hs := passes_key hg hk hu (ihe _ _ _ _ hv (ht.apart r) (iht _ _ _ hq))
      simpa using passes_opening (k := .object) hw hg (by decide) (by decide) hs
    | next hg hg' =>
      intro open_ r q hq
      have hs := passes_key hg' hk hu (ihe _ _ _ _ hv (ht.apart r) (iht _ _ _ hq))
      simpa using passes_comma (k := .object) hg hs

/-- A scan takes nothing but a well-formed value, with the white space in front of it. -/
theorem skip_sound {s : Bytes} {r : Rest s} (h : skip s = .ok r) :
    ∃ w e, Blank w ∧ IsValue e ∧ s = w ++ (e ++ r.bytes) := by
  obtain ⟨t, ⟨w, e, t', hw, he, rfl, rfl⟩, hs⟩ := skipFrom_sound h
  exact ⟨w, e, hw, he, by simpa using hs⟩

/-- A value in brackets is passed over whatever comes after it. -/
theorem skip_bracket_complete {k : Bracket} {w t : Bytes} (hw : Blank w) (ht : WellFormed (.inside k true) t)
    (r : Bytes) : ∃ h, skip (w ++ k.opening :: (t ++ r)) = .ok ⟨r, h⟩ := by
  refine passed ht [] w r r hw ?_ _ _
  intro origin h
  rw [skipFrom]
  exact ⟨h, rfl⟩

/-- Any well-formed value is passed over, whatever its depth. -/
theorem skip_complete {w e r : Bytes} (hw : Blank w) (he : IsValue e) (hr : Apart r) :
    ∃ h, skip (w ++ (e ++ r)) = .ok ⟨r, h⟩ := by
  refine passed he [] w r r hw hr ?_ _ _
  intro origin h
  rw [skipFrom]
  exact ⟨h, rfl⟩

section Parts

variable {α : Type}

theorem Members.wellFormed {R : String → Bytes → α → Prop} (hR : ∀ key e x, R key e x → IsValue e) {first : Bool}
    {t : Bytes} {ms : List (String × α)} (h : Members R first t ms) : WellFormed (.inside .object first) t := by
  induction h with
  | close hw => exact .close hw
  | member hg hk hu hw he _ ih => exact .member hg hk.scans hu hw (hR _ _ _ he) ih

theorem Items.wellFormed {R : Bytes → α → Prop} (hR : ∀ e x, R e x → IsValue e) {first : Bool} {t : Bytes}
    {xs : List α} (h : Items R first t xs) : WellFormed (.inside .list first) t := by
  induction h with
  | close hw => exact .close hw
  | item hg he _ ih => exact .item hg (hR _ _ he) ih

theorem Members.isValue {R : String → Bytes → α → Prop} (hR : ∀ key e x, R key e x → IsValue e) {t : Bytes}
    {ms : List (String × α)} (h : Members R true t ms) : IsValue ('\x7b'.toUInt8 :: t) :=
  .bracket (k := .object) (h.wellFormed hR)

theorem Items.isValue {R : Bytes → α → Prop} (hR : ∀ e x, R e x → IsValue e) {t : Bytes} {xs : List α}
    (h : Items R true t xs) : IsValue ('['.toUInt8 :: t) :=
  .bracket (k := .list) (h.wellFormed hR)

end Parts
end FlowCluster.Json
