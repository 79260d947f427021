import FlowCluster.Proofs.Json.Numeral
import FlowCluster.Proofs.Json.Text

/-! # Texts of values

The texts that are read as values, by the number of brackets that may be open at once. -/

namespace FlowCluster.Json

/-- The text of a value without parts. -/
inductive ScalarText : Bytes → Scalar → Prop
  | null : ScalarText (Text.Utf8.encode "null") .null
  | true : ScalarText (Text.Utf8.encode "true") (.boolean Bool.true)
  | false : ScalarText (Text.Utf8.encode "false") (.boolean Bool.false)
  | text {e : Bytes} {t : String} : Quoted e t → ScalarText e (.text t)
  | number {e : Bytes} {x : Numeral} {n : Number} :
      Numeral.Written e x → x.number? = some n → ScalarText e (.number n)

theorem encode_null : Text.Utf8.encode "null" = 'n'.toUInt8 :: Text.Utf8.encode "ull" := by decide

theorem encode_true : Text.Utf8.encode "true" = 't'.toUInt8 :: Text.Utf8.encode "rue" := by decide

theorem encode_false : Text.Utf8.encode "false" = 'f'.toUInt8 :: Text.Utf8.encode "alse" := by decide

/-- Where a numeral may begin nothing else does. -/
theorem beginsNumeral_ne {b c : UInt8} (hb : beginsNumeral b = true) (hc : beginsNumeral c = false) : b ≠ c := by
  rintro rfl
  rw [hb] at hc
  cases hc

theorem not_isBlank_of_beginsNumeral {b : UInt8} (hb : beginsNumeral b = true) : isBlank b = false := by
  simp [isBlank, beginsNumeral_ne hb (c := 0x20) (by decide), beginsNumeral_ne hb (c := 0x0A) (by decide),
    beginsNumeral_ne hb (c := 0x09) (by decide), beginsNumeral_ne hb (c := 0x0D) (by decide)]

theorem scalar_sound {b : UInt8} {r : Bytes} {x : Scalar} {q : Rest (b :: r)} (h : scalar b r = .ok (x, q)) :
    ∃ e, ScalarText e x ∧ b :: r = e ++ q.bytes := by
  unfold scalar at h
  split_ifs at h with h₁ h₂ h₃ h₄ h₅
  · split at h
    · simp at h
    · next t ht =>
      simp only [Except.ok.injEq, Prod.mk.injEq] at h
      obtain ⟨rfl, rfl⟩ := h
      exact ⟨_, .null, by rw [encode_null, h₁, List.cons_append, ← word_sound ht]⟩
  · split at h
    · simp at h
    · next t ht =>
      simp only [Except.ok.injEq, Prod.mk.injEq] at h
      obtain ⟨rfl, rfl⟩ := h
      exact ⟨_, .true, by rw [encode_true, h₂, List.cons_append, ← word_sound ht]⟩
  · split at h
    · simp at h
    · next t ht =>
      simp only [Except.ok.injEq, Prod.mk.injEq] at h
      obtain ⟨rfl, rfl⟩ := h
      exact ⟨_, .false, by rw [encode_false, h₃, List.cons_append, ← word_sound ht]⟩
  · split at h
    · simp at h
    · next t q' ht =>
      simp only [Except.ok.injEq, Prod.mk.injEq] at h
      obtain ⟨rfl, rfl⟩ := h
      obtain ⟨e, he, hs⟩ := string_sound ht
      exact ⟨_, .text ⟨e, he, rfl⟩, by simpa [h₄] using hs⟩
  · split at h
    · simp at h
    · next n q' hn =>
      simp only [Except.ok.injEq, Prod.mk.injEq] at h
      obtain ⟨rfl, rfl⟩ := h
      obtain ⟨e, y, he, hy, hs⟩ := number_sound hn
      exact ⟨e, .number he hy, hs⟩

/-- A value without parts begins with no bracket, and is read whatever comes after it. -/
theorem scalar_complete {e : Bytes} {x : Scalar} (he : ScalarText e x) :
    ∃ b e', e = b :: e' ∧ isBlank b = false ∧ b ≠ ']'.toUInt8 ∧ b ≠ '['.toUInt8 ∧ b ≠ '\x7b'.toUInt8 ∧
      ∀ r, Apart r → ∃ h, scalar b (e' ++ r) = .ok (x, ⟨r, h⟩) := by
  cases he with
  | null =>
    refine ⟨_, _, encode_null, by decide, by decide, by decide, by decide, fun r _ => ?_⟩
    obtain ⟨h, hw⟩ := word_complete (Text.Utf8.encode "ull") r
    exact ⟨Nat.lt_succ_of_le h, by simp [scalar, hw]⟩
  | true =>
    refine ⟨_, _, encode_true, by decide, by decide, by decide, by decide, fun r _ => ?_⟩
    obtain ⟨h, hw⟩ := word_complete (Text.Utf8.encode "rue") r
    have : 't'.toUInt8 ≠ 'n'.toUInt8 := by decide
    exact ⟨Nat.lt_succ_of_le h, by simp [scalar, this, hw]⟩
  | false =>
    refine ⟨_, _, encode_false, by decide, by decide, by decide, by decide, fun r _ => ?_⟩
    obtain ⟨h, hw⟩ := word_complete (Text.Utf8.encode "alse") r
    have h₁ : 'f'.toUInt8 ≠ 'n'.toUInt8 := by decide
    have h₂ : 'f'.toUInt8 ≠ 't'.toUInt8 := by decide
    exact ⟨Nat.lt_succ_of_le h, by simp [scalar, h₁, h₂, hw]⟩
  | text hs =>
    obtain ⟨k, hs, rfl⟩ := hs
    refine ⟨_, _, rfl, by decide, by decide, by decide, by decide, fun r _ => ?_⟩
    obtain ⟨h, hs⟩ := string_complete hs r
    have h₁ : '"'.toUInt8 ≠ 'n'.toUInt8 := by decide
    have h₂ : '"'.toUInt8 ≠ 't'.toUInt8 := by decide
    have h₃ : '"'.toUInt8 ≠ 'f'.toUInt8 := by decide
    rw [List.append_assoc, List.singleton_append]
    exact ⟨Nat.lt_succ_of_lt h, by simp [scalar, h₁, h₂, h₃, hs, Rest.widen]⟩
  | @number _ y n hx hn =>
    obtain ⟨b, q, rfl, hb⟩ := hx.begins
    refine ⟨b, q, rfl, not_isBlank_of_beginsNumeral hb, beginsNumeral_ne hb (by decide),
      beginsNumeral_ne hb (by decide), beginsNumeral_ne hb (by decide), fun r hr => ?_⟩
    obtain ⟨h, hn⟩ : ∃ h, number (b :: (q ++ r)) = .ok (n, ⟨r, h⟩) := number_complete hx hn hr
    have h₁ := beginsNumeral_ne hb (c := 'n'.toUInt8) (by decide)
    have h₂ := beginsNumeral_ne hb (c := 't'.toUInt8) (by decide)
    have h₃ := beginsNumeral_ne hb (c := 'f'.toUInt8) (by decide)
    have h₄ := beginsNumeral_ne hb (c := '"'.toUInt8) (by decide)
    exact ⟨h, by simp only [scalar, h₁, h₂, h₃, h₄, hb, hn, ↓reduceIte]⟩

section Members

variable {α : Type}

/-- The text of the members of an object, with the bracket that closes it. What a value is may depend on its key. -/
inductive Members (R : String → Bytes → α → Prop) : Bool → Bytes → List (String × α) → Prop
  | close {first : Bool} {w : Bytes} : Blank w → Members R first (w ++ ['\x7d'.toUInt8]) []
  | member {first : Bool} {g k u w e t : Bytes} {key : String} {x : α} {ms : List (String × α)} :
      Gap first g → Spells k (Text.Utf8.encode key) → Blank u → Blank w → R key e x → Members R false t ms →
      Members R first (g ++ '"'.toUInt8 :: (k ++ '"'.toUInt8 :: (u ++ ':'.toUInt8 :: (w ++ (e ++ t)))))
        ((key, x) :: ms)

theorem Members.forall_mem {R : String → Bytes → α → Prop} {first : Bool} {t : Bytes}
    {ms : List (String × α)} (h : Members R first t ms) : ∀ m ∈ ms, ∃ e, R m.1 e m.2 := by
  induction h with
  | close => simp
  | member _ _ _ _ he _ ih => exact List.forall_mem_cons.mpr ⟨⟨_, he⟩, ih⟩

theorem Members.apart {R : String → Bytes → α → Prop} {t : Bytes} {ms : List (String × α)}
    (h : Members R false t ms) (r : Bytes) : Apart (t ++ r) := by
  cases h with
  | close hw =>
    rw [List.append_assoc, List.singleton_append]
    exact apart_blank_append hw (apart_cons (by decide) _)
  | member hg =>
    rw [List.append_assoc]
    exact hg.apart _

theorem Members.closed {R : String → Bytes → α → Prop} {first : Bool} {t : Bytes} {ms : List (String × α)}
    (h : Members R first t ms) : Closed t := by
  induction h with
  | close => exact ⟨_, _, rfl, .inr rfl⟩
  | @member first g k u w e t key x ms _ _ _ _ _ _ ih =>
    have := ih.append (g ++ '"'.toUInt8 :: (k ++ '"'.toUInt8 :: (u ++ ':'.toUInt8 :: (w ++ e))))
    simpa using this

end Members

/-- Members put in one after the other. -/
def inserted (seen : List (String × Value)) (ms : List (String × Value)) : List (String × Value) :=
  ms.foldl (fun seen m => Value.insert m.1 m.2 seen) seen

theorem members_sound {item : Reader Value} {R : Bytes → Value → Prop} (hp : Reads Apart item R) {origin : Bytes}
    {seen : List (String × Value)} {first : Bool} {s : Bytes} {h : s.length ≤ origin.length}
    {out : List (String × Value)} {r : Rest origin} (hm : members item origin seen first s h = .ok (out, r)) :
    ∃ t ms, Members (fun _ => R) first t ms ∧ s = t ++ r.bytes ∧ out = inserted seen ms := by
  fun_induction members item origin seen first s h with
  | case1 => simp at hm
  | case2 seen first s h q hq =>
    simp only [Except.ok.injEq, Prod.mk.injEq] at hm
    obtain ⟨rfl, rfl⟩ := hm
    obtain ⟨w, hw, hs⟩ := objectTurn_closed_sound hq
    exact ⟨_, [], .close hw, by simpa using hs, rfl⟩
  | case3 => simp at hm
  | case4 => simp at hm
  | case5 => simp at hm
  | case6 seen first s h t ht key k hk c hc v q hv hlt ih =>
    obtain ⟨t', ms, hms, hq, rfl⟩ := ih hm
    obtain ⟨g, hg, hs⟩ := objectTurn_item_sound ht
    obtain ⟨y, hy, hk⟩ := string_sound hk
    obtain ⟨u, hu, hc⟩ := colon_sound hc
    obtain ⟨w, e, hw, he, heq⟩ := hp.sound (s := c.bytes) ⟨q.shorter, hv⟩
    refine ⟨_, (key, v) :: ms, .member hg hy hu hw he hms, ?_, rfl⟩
    rw [hs, hk, hc, heq, hq]
    simp only [List.append_assoc, List.cons_append]

theorem members_complete {item : Reader Value} {R : Bytes → Value → Prop} (hp : Reads Apart item R) {origin : Bytes}
    {first : Bool} {t : Bytes} {ms : List (String × Value)} (hm : Members (fun _ => R) first t ms)
    (seen : List (String × Value)) (r : Bytes) (h : (t ++ r).length ≤ origin.length) :
    ∃ h', members item origin seen first (t ++ r) h = .ok (inserted seen ms, ⟨r, h'⟩) := by
  induction hm generalizing seen with
  | @close first w hw =>
    obtain ⟨h', hc⟩ := objectTurn_closed_complete first hw r
    simp only [List.append_assoc, List.singleton_append] at h ⊢
    rw [members, hc]
    exact ⟨Nat.lt_of_lt_of_le h' h, rfl⟩
  | @member first g k u w e t key x ms hg hk hu hw he ht ih =>
    simp only [List.append_assoc, List.cons_append] at h ⊢
    obtain ⟨_, ho⟩ := objectTurn_item_complete hg (k ++ '"'.toUInt8 :: (u ++ ':'.toUInt8 :: (w ++ (e ++ (t ++ r)))))
    obtain ⟨_, hk⟩ := string_complete hk (u ++ ':'.toUInt8 :: (w ++ (e ++ (t ++ r))))
    obtain ⟨_, hc⟩ := colon_complete hu (w ++ (e ++ (t ++ r)))
    obtain ⟨_, hx⟩ := hp.complete hw he (ht.apart r)
    obtain ⟨h', hms⟩ := ih (Value.insert key x seen) (by simp at h ⊢; omega)
    rw [members, ho]
    simp only [hk, hc, hx, hms]
    exact ⟨h', rfl⟩

/-- The text of a value with so many brackets open at once. -/
def ValueText : (depth : Nat) → Bytes → Value → Prop
  | 0, e, v => ∃ x, ScalarText e x ∧ v = .scalar x
  | d + 1, e, v =>
    (∃ x, ScalarText e x ∧ v = .scalar x) ∨
    (∃ t xs, Items (ValueText d) true t xs ∧ e = '['.toUInt8 :: t ∧ v = .list xs) ∨
    ∃ t ms, Members (fun _ => ValueText d) true t ms ∧ e = '\x7b'.toUInt8 :: t ∧ v = .object (inserted [] ms)

theorem ScalarText.valueText {d : Nat} {e : Bytes} {x : Scalar} (h : ScalarText e x) : ValueText d e (.scalar x) := by
  cases d with
  | zero => exact ⟨x, h, rfl⟩
  | succ d => exact .inl ⟨x, h, rfl⟩

private theorem ValueText.starts {d : Nat} {e : Bytes} {v : Value} (h : ValueText d e v) : Starts e := by
  have hs {x : Scalar} (hx : ScalarText e x) : Starts e := by
    obtain ⟨b, e', rfl, hb, hc, -⟩ := scalar_complete hx
    exact ⟨b, e', rfl, hb, hc⟩
  cases d with
  | zero =>
    obtain ⟨x, hx, -⟩ := h
    exact hs hx
  | succ d =>
    rcases h with ⟨x, hx, -⟩ | ⟨t, xs, -, rfl, -⟩ | ⟨t, ms, -, rfl, -⟩
    · exact hs hx
    · exact ⟨_, t, rfl, by decide, by decide⟩
    · exact ⟨_, t, rfl, by decide, by decide⟩

private theorem value_complete_scalar {d : Nat} {w e r : Bytes} {x : Scalar} (hw : Blank w) (he : ScalarText e x)
    (hr : Apart r) : Takes (value d) (w ++ (e ++ r)) (.scalar x) r := by
  obtain ⟨b, e', rfl, hb, -, hl, ho, hx⟩ := scalar_complete he
  obtain ⟨h, hx⟩ := hx r hr
  rw [List.cons_append]
  refine ⟨by simp; omega, ?_⟩
  unfold value
  simp only [content_append hw hb, hl, ho, ↓reduceIte, hx, Rest.widen]

/-- What is read as a value, given that its items are read from their texts one level further in. -/
private theorem value_sound_of_inner {d : Nat} (ih : ∀ k, d = k + 1 → Reads Apart (value k) (ValueText k))
    {s r : Bytes} {v : Value} (h : Takes (value d) s v r) : ∃ w e, Blank w ∧ ValueText d e v ∧ s = w ++ (e ++ r) := by
  obtain ⟨hlt, h⟩ := h
  unfold value at h
  split at h
  · simp at h
  · next b q hb hc =>
    split_ifs at h with hl ho
    · cases d with
      | zero => simp at h
      | succ k =>
        dsimp only at h
        split at h
        · simp at h
        · next xs p hi =>
          simp only [Except.ok.injEq, Prod.mk.injEq] at h
          obtain ⟨t, ys, ht, hq, rfl⟩ := items_sound (ih k rfl) hi
          obtain ⟨w, hw, hs⟩ := eq_append_of_opened hc hl hq h.2
          exact ⟨w, _, hw, .inr (.inl ⟨t, _, ht, rfl, h.1.symm⟩), hs⟩
    · cases d with
      | zero => simp at h
      | succ k =>
        dsimp only at h
        split at h
        · simp at h
        · next ms p hi =>
          simp only [Except.ok.injEq, Prod.mk.injEq] at h
          obtain ⟨t, ns, ht, hq, rfl⟩ := members_sound (ih k rfl) hi
          obtain ⟨w, hw, hs⟩ := eq_append_of_opened hc ho hq h.2
          exact ⟨w, _, hw, .inr (.inr ⟨t, ns, ht, rfl, h.1.symm⟩), hs⟩
    · split at h
      · simp at h
      · next x p hx =>
        simp only [Except.ok.injEq, Prod.mk.injEq] at h
        obtain ⟨rfl, hp⟩ := h
        obtain ⟨w, hw, hs⟩ := eq_append_of_content hc
        obtain ⟨e, he, hbq⟩ := scalar_sound hx
        exact ⟨w, e, hw, he.valueText, by rw [hs, hbq, ← Rest.widen_bytes p hb, hp]⟩

/-- A text of a value is read as that value, given that its items are. -/
private theorem value_complete_of_inner {d : Nat} (ih : ∀ k, d = k + 1 → Reads Apart (value k) (ValueText k))
    {w e r : Bytes} {v : Value} (hw : Blank w) (he : ValueText d e v) (hr : Apart r) :
    Takes (value d) (w ++ (e ++ r)) v r := by
  cases d with
  | zero =>
    obtain ⟨x, hx, rfl⟩ := he
    exact value_complete_scalar hw hx hr
  | succ k =>
    rcases he with ⟨x, hx, rfl⟩ | ⟨t, xs, ht, rfl, rfl⟩ | ⟨t, ms, ht, rfl, rfl⟩
    · exact value_complete_scalar hw hx hr
    · obtain ⟨h, hi⟩ := items_complete (ih k rfl) ht [] r (Nat.le_refl _)
      refine ⟨by simp at h ⊢; omega, ?_⟩
      unfold value
      simp [content_append hw (b := '['.toUInt8) (by decide), hi, Rest.widen]
    · obtain ⟨h, hm⟩ := members_complete (ih k rfl) ht [] r (Nat.le_refl _)
      have : '\x7b'.toUInt8 ≠ '['.toUInt8 := by decide
      refine ⟨by simp at h ⊢; omega, ?_⟩
      unfold value
      simp [content_append hw (b := '\x7b'.toUInt8) (by decide), this, hm, Rest.widen]

/-- Values are read from their texts and from nothing else. -/
theorem value_reads (d : Nat) : Reads Apart (value d) (ValueText d) := by
  induction d with
  | zero =>
    have ih (k : Nat) (hk : 0 = k + 1) : Reads Apart (value k) (ValueText k) := by omega
    exact ⟨ValueText.starts, value_sound_of_inner ih, value_complete_of_inner ih⟩
  | succ d ihd =>
    have ih (k : Nat) (hk : d + 1 = k + 1) : Reads Apart (value k) (ValueText k) := by
      obtain rfl : d = k := by omega
      exact ihd
    exact ⟨ValueText.starts, value_sound_of_inner ih, value_complete_of_inner ih⟩

end FlowCluster.Json
