import FlowCluster.Proofs.Json.Reader

/-! # Lists and objects from their parts

What stands between the items of a list and the members of an object, and the texts of whole lists given those of
their items. -/

namespace FlowCluster.Json

/-- A byte that comes next and is taken stands after white space. -/
private theorem eq_append_of_taken {s q : Bytes} {b c : UInt8} {h : (b :: q).length ≤ s.length} {r : Rest s}
    (hs : content s = ⟨b :: q, h⟩) (hb : b = c) (hr : ⟨q, h⟩ = r) : ∃ w, Blank w ∧ s = w ++ c :: r.bytes := by
  obtain ⟨w, hw, he⟩ := eq_append_of_content hs
  subst hb hr
  exact ⟨w, hw, he⟩

/-- What stands before an item: white space, and a comma unless the item is the first. -/
inductive Gap : Bool → Bytes → Prop
  | first {w : Bytes} : Blank w → Gap true w
  | next {v w : Bytes} : Blank v → Blank w → Gap false (v ++ ','.toUInt8 :: w)

theorem Gap.append_blank {first : Bool} {g w : Bytes} (hg : Gap first g) (hw : Blank w) : Gap first (g ++ w) := by
  cases hg with
  | first hv => exact .first (blank_append_iff.mpr ⟨hv, hw⟩)
  | next hu hv =>
    rw [List.append_assoc, List.cons_append]
    exact .next hu (blank_append_iff.mpr ⟨hv, hw⟩)

/-- After an item, what stands before the next one ends any number. -/
theorem Gap.apart {g : Bytes} (hg : Gap false g) (r : Bytes) : Apart (g ++ r) := by
  cases hg with
  | next hv hw =>
    rw [List.append_assoc, List.cons_append]
    exact apart_blank_append hv (apart_cons (by decide) _)

theorem listTurn_closed_sound {first : Bool} {s : Bytes} {r : Rest s} (h : listTurn first s = .ok (.closed r)) :
    ∃ w, Blank w ∧ s = w ++ ']'.toUInt8 :: r.bytes := by
  unfold listTurn at h
  split at h
  · simp at h
  · next b q hb hc =>
    split_ifs at h with h₁ h₂ h₃
    · exact eq_append_of_taken hc h₁ (Turn.closed.inj (Except.ok.inj h))
    · simp at h
    · split at h
      · simp at h
      · split_ifs at h
        simp at h

theorem listTurn_item_sound {first : Bool} {s : Bytes} {t : Tail s} (h : listTurn first s = .ok (.item t)) :
    ∃ g, Gap first g ∧ s = g ++ t.bytes := by
  unfold listTurn at h
  split at h
  · simp at h
  · next b q hb hc =>
    obtain ⟨v, hv, he⟩ := eq_append_of_content hc
    split_ifs at h with h₁ h₂ h₃
    · simp at h
    · simp only [Except.ok.injEq, Turn.item.injEq] at h
      have ht : t.bytes = b :: q := by rw [← h]
      exact ⟨v, h₂ ▸ .first hv, by rw [ht, ← he]⟩
    · split at h
      · simp at h
      · next c p hp hd =>
        obtain ⟨w, hw, hq⟩ := eq_append_of_content hd
        split_ifs at h
        simp only [Except.ok.injEq, Turn.item.injEq] at h
        have ht : t.bytes = c :: p := by rw [← h]
        refine ⟨v ++ ','.toUInt8 :: w, Bool.eq_false_iff.mpr h₂ ▸ .next hv hw, ?_⟩
        rw [ht, List.append_assoc, List.cons_append, ← hq, ← h₃, ← he]

theorem listTurn_closed_complete (first : Bool) {w : Bytes} (hw : Blank w) (r : Bytes) :
    ∃ h, listTurn first (w ++ ']'.toUInt8 :: r) = .ok (.closed ⟨r, h⟩) := by
  unfold listTurn
  rw [content_append hw (by decide)]
  exact ⟨_, if_pos rfl⟩

theorem listTurn_item_complete {first : Bool} {g t : Bytes} (hg : Gap first g) (ht : Starts t) :
    ∃ h, listTurn first (g ++ t) = .ok (.item ⟨t, h⟩) := by
  obtain ⟨b, r, rfl, hb, hc⟩ := ht
  unfold listTurn
  cases hg with
  | first hw =>
    rw [content_append hw hb]
    simp only [hc, ↓reduceIte]
    exact ⟨by simp, trivial⟩
  | @next v w hv hw =>
    rw [List.append_assoc, List.cons_append, content_append hv (by decide)]
    have : ','.toUInt8 ≠ ']'.toUInt8 := by decide
    simp only [this, content_append hw hb, hc, ↓reduceIte, Bool.false_eq_true]
    exact ⟨by simp; omega, trivial⟩

theorem listEnd_sound {s : Bytes} {r : Rest s} (h : listEnd s = .ok r) :
    ∃ w, Blank w ∧ s = w ++ ']'.toUInt8 :: r.bytes := by
  unfold listEnd at h
  split at h
  · simp at h
  · next b q hb hc =>
    split_ifs at h with h₁ h₂
    · exact eq_append_of_taken hc h₁ (Except.ok.inj h)
    · split at h <;> simp at h

theorem listEnd_complete {w : Bytes} (hw : Blank w) (r : Bytes) :
    ∃ h, listEnd (w ++ ']'.toUInt8 :: r) = .ok ⟨r, h⟩ := by
  unfold listEnd
  rw [content_append hw (by decide)]
  exact ⟨_, if_pos rfl⟩

theorem objectTurn_closed_sound {first : Bool} {s : Bytes} {r : Rest s} (h : objectTurn first s = .ok (.closed r)) :
    ∃ w, Blank w ∧ s = w ++ '\x7d'.toUInt8 :: r.bytes := by
  unfold objectTurn at h
  split at h
  · simp at h
  · next b q hb hc =>
    split_ifs at h with h₁ h₂ h₃ h₄
    · exact eq_append_of_taken hc h₁ (Turn.closed.inj (Except.ok.inj h))
    · simp at h
    · split at h
      · simp at h
      · split_ifs at h
        simp at h

theorem objectTurn_item_sound {first : Bool} {s : Bytes} {t : Tail s} (h : objectTurn first s = .ok (.item t)) :
    ∃ g, Gap first g ∧ s = g ++ '"'.toUInt8 :: t.bytes := by
  unfold objectTurn at h
  split at h
  · simp at h
  · next b q hb hc =>
    obtain ⟨v, hv, he⟩ := eq_append_of_content hc
    split_ifs at h with h₁ h₂ h₃ h₄
    · simp at h
    · simp only [Except.ok.injEq, Turn.item.injEq] at h
      have ht : t.bytes = q := by rw [← h]
      exact ⟨v, h₂ ▸ .first hv, by rw [ht, ← h₃, ← he]⟩
    · split at h
      · simp at h
      · next c p hp hd =>
        obtain ⟨w, hw, hq⟩ := eq_append_of_content hd
        split_ifs at h with h₅
        simp only [Except.ok.injEq, Turn.item.injEq] at h
        have ht : t.bytes = p := by rw [← h]
        refine ⟨v ++ ','.toUInt8 :: w, Bool.eq_false_iff.mpr h₂ ▸ .next hv hw, ?_⟩
        rw [ht, List.append_assoc, List.cons_append, ← h₅, ← hq, ← h₄, ← he]

theorem objectTurn_closed_complete (first : Bool) {w : Bytes} (hw : Blank w) (r : Bytes) :
    ∃ h, objectTurn first (w ++ '\x7d'.toUInt8 :: r) = .ok (.closed ⟨r, h⟩) := by
  unfold objectTurn
  rw [content_append hw (by decide)]
  exact ⟨_, if_pos rfl⟩

theorem objectTurn_item_complete {first : Bool} {g : Bytes} (hg : Gap first g) (t : Bytes) :
    ∃ h, objectTurn first (g ++ '"'.toUInt8 :: t) = .ok (.item ⟨t, h⟩) := by
  unfold objectTurn
  have h₁ : '"'.toUInt8 ≠ '\x7d'.toUInt8 := by decide
  cases hg with
  | first hw =>
    rw [content_append hw (by decide)]
    simp only [h₁, ↓reduceIte]
    exact ⟨by simp; omega, trivial⟩
  | next hv hw =>
    rw [List.append_assoc, List.cons_append, content_append hv (by decide)]
    have h₂ : ','.toUInt8 ≠ '\x7d'.toUInt8 := by decide
    simp only [h₂, content_append hw (b := '"'.toUInt8) (by decide), ↓reduceIte, Bool.false_eq_true]
    exact ⟨by simp; omega, trivial⟩

theorem colon_sound {s : Bytes} {r : Rest s} (h : colon s = .ok r) : ∃ w, Blank w ∧ s = w ++ ':'.toUInt8 :: r.bytes := by
  unfold colon at h
  split at h
  · simp at h
  · next b q hb hc =>
    split_ifs at h with h₁
    exact eq_append_of_taken hc h₁ (Except.ok.inj h)

theorem colon_complete {w : Bytes} (hw : Blank w) (r : Bytes) : ∃ h, colon (w ++ ':'.toUInt8 :: r) = .ok ⟨r, h⟩ := by
  unfold colon
  rw [content_append hw (by decide)]
  exact ⟨_, if_pos rfl⟩

/-- A text that ends with the closing bracket of a list or an object. -/
def Closed (e : Bytes) : Prop := ∃ e' c, e = e' ++ [c] ∧ (c = ']'.toUInt8 ∨ c = '\x7d'.toUInt8)

theorem Closed.append {t : Bytes} (h : Closed t) (g : Bytes) : Closed (g ++ t) := by
  obtain ⟨e, c, rfl, hc⟩ := h
  exact ⟨g ++ e, c, by simp, hc⟩

section Items

variable {α : Type} {R : Bytes → α → Prop}

/-- The text of the items of a list, with the bracket that closes it. -/
inductive Items (R : Bytes → α → Prop) : Bool → Bytes → List α → Prop
  | close {first : Bool} {w : Bytes} : Blank w → Items R first (w ++ [']'.toUInt8]) []
  | item {first : Bool} {g e t : Bytes} {x : α} {xs : List α} :
      Gap first g → R e x → Items R false t xs → Items R first (g ++ (e ++ t)) (x :: xs)

theorem Items.forall_mem {first : Bool} {t : Bytes} {xs : List α}
    (h : Items R first t xs) : ∀ x ∈ xs, ∃ e, R e x := by
  induction h with
  | close => simp
  | item _ he _ ih => exact List.forall_mem_cons.mpr ⟨⟨_, he⟩, ih⟩

theorem Items.apart {t : Bytes} {xs : List α} (h : Items R false t xs) (r : Bytes) : Apart (t ++ r) := by
  cases h with
  | close hw =>
    rw [List.append_assoc, List.singleton_append]
    exact apart_blank_append hw (apart_cons (by decide) _)
  | item hg _ _ =>
    rw [List.append_assoc]
    exact hg.apart _

theorem Items.closed {first : Bool} {t : Bytes} {xs : List α} (h : Items R first t xs) : Closed t := by
  induction h with
  | close => exact ⟨_, _, rfl, .inl rfl⟩
  | item _ _ _ ih =>
    rw [← List.append_assoc]
    exact ih.append _

theorem items_sound {item : Reader α} (hp : Reads Apart item R) {origin : Bytes} {seen : List α} {first : Bool}
    {s : Bytes} {h : s.length ≤ origin.length} {ys : List α} {r : Rest origin}
    (hi : items item origin seen first s h = .ok (ys, r)) :
    ∃ t xs, Items R first t xs ∧ s = t ++ r.bytes ∧ ys = seen.reverse ++ xs := by
  fun_induction items item origin seen first s h with
  | case1 => simp at hi
  | case2 seen first s h q hq =>
    simp only [Except.ok.injEq, Prod.mk.injEq] at hi
    obtain ⟨w, hw, hs⟩ := listTurn_closed_sound hq
    exact ⟨_, [], .close hw, by simpa [← hi.2, Rest.widen] using hs, by simp [← hi.1]⟩
  | case3 => simp at hi
  | case4 seen first s h t ht x q hx ih =>
    obtain ⟨t', xs, hxs, hr, rfl⟩ := ih hi
    obtain ⟨g, hg, hs⟩ := listTurn_item_sound ht
    obtain ⟨w, e, hw, he, heq⟩ := hp.sound (s := t.bytes) ⟨q.shorter, hx⟩
    refine ⟨_, x :: xs, .item (hg.append_blank hw) he hxs, ?_, by simp⟩
    rw [hs, heq, hr]
    simp only [List.append_assoc]

theorem items_complete {item : Reader α} (hp : Reads Apart item R) {origin : Bytes} {first : Bool} {t : Bytes}
    {xs : List α} (hi : Items R first t xs) (seen : List α) (r : Bytes) (h : (t ++ r).length ≤ origin.length) :
    ∃ h', items item origin seen first (t ++ r) h = .ok (seen.reverse ++ xs, ⟨r, h'⟩) := by
  induction hi generalizing seen with
  | @close first w hw =>
    obtain ⟨h', hc⟩ := listTurn_closed_complete first hw r
    simp only [List.append_assoc, List.singleton_append] at h ⊢
    rw [items, hc]
    exact ⟨Nat.lt_of_lt_of_le h' h, by simp [Rest.widen]⟩
  | @item first g e t x xs hg he ht ih =>
    simp only [List.append_assoc] at h ⊢
    obtain ⟨h₁, hc⟩ := listTurn_item_complete hg ((hp.starts he).append (t ++ r))
    obtain ⟨h₂, hx⟩ := hp.takes he (ht.apart r)
    obtain ⟨h₃, hxs⟩ := ih (x :: seen) (by simp at h ⊢; omega)
    rw [items, hc]
    simp only [hx, hxs]
    exact ⟨h₃, by simp⟩

end Items
end FlowCluster.Json
