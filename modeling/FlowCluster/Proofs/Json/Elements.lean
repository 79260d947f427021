import FlowCluster.Proofs.Json.Content
import FlowCluster.Proofs.Json.Piece
import Mathlib.Data.List.Forall2

/-! # Lists by their elements

A list is the texts of its elements with commas between them, each with white space around it as it may stand alone.
The text of a record is a well-formed value, so such a list is cut where its elements end; and a record of texts is
read the same however many brackets are open around it. -/

namespace FlowCluster.Json

section Items

variable {α : Type} {R : Bytes → α → Prop}

/-- A text with white space around it. -/
def Padded (R : Bytes → α → Prop) (s : Bytes) (x : α) : Prop :=
  ∃ v e w, Blank v ∧ R e x ∧ Blank w ∧ s = v ++ (e ++ w)

/-- Texts with a comma between each two. -/
def joined (es : List Bytes) : Bytes := [','.toUInt8].intercalate es

/-- Texts with a comma in front of each. -/
def continued (es : List Bytes) : Bytes := es.flatMap fun e => ','.toUInt8 :: e

theorem continued_nil : continued [] = [] := rfl

theorem continued_cons (e : Bytes) (es : List Bytes) : continued (e :: es) = ','.toUInt8 :: (e ++ continued es) := by
  rw [continued, List.flatMap_cons, List.cons_append]
  rfl

theorem joined_cons (e : Bytes) (es : List Bytes) : joined (e :: es) = e ++ continued es := by
  induction es generalizing e with
  | nil => simp [joined, continued, List.intercalate]
  | cons f es ih =>
    have hstep : joined (e :: f :: es) = e ++ ','.toUInt8 :: joined (f :: es) := by
      simp [joined, List.intercalate]
    rw [hstep, ih, continued_cons]

theorem blank_of_mem_joined {es : List Bytes} (h : Blank (joined es)) {e : Bytes} (he : e ∈ es) : Blank e := by
  cases es with
  | nil => cases he
  | cons f es =>
    rw [joined_cons, blank_append_iff] at h
    rcases List.mem_cons.mp he with rfl | he
    · exact h.1
    · intro b hb
      exact h.2 b (List.mem_flatMap.mpr ⟨e, he, List.mem_cons_of_mem _ hb⟩)

/-- The items after the first, each behind a comma. -/
theorem items_continued_iff {t : Bytes} {xs : List α} :
    Items R false t xs ↔
      ∃ w es, Blank w ∧ List.Forall₂ (Padded R) es xs ∧ t = w ++ (continued es ++ [']'.toUInt8]) := by
  constructor
  · intro h
    generalize hfirst : false = first at h
    induction h with
    | @close _ w hw => exact ⟨w, [], hw, .nil, rfl⟩
    | @item _ g e t x xs hg he _ ih =>
      subst hfirst
      obtain ⟨w, es, hw, hes, rfl⟩ := ih rfl
      cases hg with
      | @next u v hu hv =>
        refine ⟨u, (v ++ (e ++ w)) :: es, hu, .cons ⟨v, e, w, hv, he, hw, rfl⟩ hes, ?_⟩
        rw [continued_cons]
        simp
  · rintro ⟨w, es, hw, hes, rfl⟩
    induction hes generalizing w with
    | nil => exact .close hw
    | @cons s x es xs hs _ ih =>
      obtain ⟨v, e, u, hv, he, hu, rfl⟩ := hs
      have hitem := Items.item (.next hw hv) he (ih u hu)
      rw [continued_cons]
      simpa using hitem

/-- What stands inside the brackets of a list: white space, or the elements with commas between them. -/
def Elements (R : Bytes → α → Prop) (inner : Bytes) (xs : List α) : Prop :=
  Blank inner ∧ xs = [] ∨ ∃ es, List.Forall₂ R es xs ∧ inner = joined es

theorem items_iff {t : Bytes} {xs : List α} :
    Items R true t xs ↔ ∃ inner, t = inner ++ [']'.toUInt8] ∧ Elements (Padded R) inner xs := by
  constructor
  · intro h
    cases h with
    | @close _ w hw => exact ⟨w, rfl, .inl ⟨hw, rfl⟩⟩
    | @item _ g e t x xs hg he ht =>
      obtain ⟨w, es, hw, hes, rfl⟩ := items_continued_iff.mp ht
      cases hg with
      | first hg =>
        refine ⟨joined ((g ++ (e ++ w)) :: es), ?_, .inr ⟨_, .cons ⟨g, e, w, hg, he, hw, rfl⟩ hes, rfl⟩⟩
        rw [joined_cons]
        simp
  · rintro ⟨inner, rfl, ⟨hb, rfl⟩ | ⟨es, hes, rfl⟩⟩
    · exact .close hb
    · cases hes with
      | nil => exact .close blank_nil
      | @cons s x es xs hs hes =>
        obtain ⟨v, e, w, hv, he, hw, rfl⟩ := hs
        have hrest : Items R false (w ++ (continued es ++ [']'.toUInt8])) xs :=
          items_continued_iff.mpr ⟨w, es, hw, hes, rfl⟩
        have hitem := Items.item (.first hv) he hrest
        rw [joined_cons]
        simpa using hitem

/-- Pieces with commas between them are cut in one way only. -/
theorem pieces_inj {p e : Bytes} {ps es : List Bytes} {r s : Bytes} (hp : ∀ q ∈ p :: ps, Piece q)
    (he : ∀ q ∈ e :: es, Piece q)
    (h : p ++ (continued ps ++ ']'.toUInt8 :: r) = e ++ (continued es ++ ']'.toUInt8 :: s)) : p :: ps = e :: es := by
  have hclose : (Scan.outside []).step ']'.toUInt8 = none := step_closing .list
  have hne : ','.toUInt8 ≠ ']'.toUInt8 := by decide
  induction ps generalizing p e es with
  | nil =>
    have hp' : Piece p := hp p (List.mem_cons_self ..)
    have he' : Piece e := he e (List.mem_cons_self ..)
    rw [continued_nil, List.nil_append] at h
    cases es with
    | nil =>
      rw [continued_nil, List.nil_append] at h
      obtain ⟨rfl, -, -⟩ := hp'.append_inj he' hclose hclose h
      rfl
    | cons f es =>
      rw [continued_cons, List.cons_append] at h
      obtain ⟨-, hb, -⟩ := hp'.append_inj he' hclose step_comma h
      exact absurd hb.symm hne
  | cons q ps ih =>
    obtain ⟨hp', hps⟩ := List.forall_mem_cons.mp hp
    obtain ⟨he', hes⟩ := List.forall_mem_cons.mp he
    rw [continued_cons, List.cons_append, List.append_assoc] at h
    cases es with
    | nil =>
      rw [continued_nil, List.nil_append] at h
      obtain ⟨-, hb, -⟩ := hp'.append_inj he' step_comma hclose h
      exact absurd hb hne
    | cons f es =>
      rw [continued_cons, List.cons_append, List.append_assoc] at h
      obtain ⟨rfl, -, hrest⟩ := hp'.append_inj he' step_comma step_comma h
      rw [ih hps hes hrest]

end Items

theorem Members.imp {α : Type} {R R' : String → Bytes → α → Prop} {first : Bool} {t : Bytes} {ms : List (String × α)}
    (h : Members R first t ms) (hR : ∀ key e x, R key e x → R' key e x) : Members R' first t ms := by
  induction h with
  | close hw => exact .close hw
  | member hg hk hu hw he _ ih => exact .member hg hk hu hw (hR _ _ _ he) ih

namespace Layout

variable {σ : Type} {l : Layout σ}

/-- No field looks at the number of brackets that may be opened. -/
def Shallow (l : Layout σ) : Prop := ∀ f ∈ l.fields, ∀ d d', f.decoder d = f.decoder d'

/-- Every field is read from a well-formed value. -/
def Valued (l : Layout σ) : Prop := ∀ f ∈ l.fields, ∀ d e change, Exactly (f.decoder d) e change → IsValue e

private theorem Positions.depth {d : Nat} (d' : Nat) {fields : List (Field σ)} {record x : σ} {first : Bool}
    {t : Bytes} (h : Positions d fields record first t x) (hf : ∀ f ∈ fields, ∀ d d', f.decoder d = f.decoder d') :
    Positions d' fields record first t x := by
  induction h with
  | close hw => exact .close hw
  | item hg he _ ih =>
    rw [hf _ (List.mem_cons_self ..) d d'] at he
    exact .item hg he (ih fun f hm => hf f (List.mem_cons_of_mem _ hm))

private theorem MemberText.depth (hl : l.Shallow) {d : Nat} (d' : Nat) {key : String} {e : Bytes} {effect : Effect σ}
    (h : l.MemberText d key e effect) : l.MemberText d' key e effect := by
  cases effect with
  | none => exact h
  | refused =>
    obtain ⟨f, hf, hr⟩ := h
    rw [hl f (field?_eq_some hf).1 d d'] at hr
    exact ⟨f, hf, hr⟩
  | put change =>
    obtain ⟨f, hf, he⟩ := h
    rw [hl f (field?_eq_some hf).1 d d'] at he
    exact ⟨f, hf, he⟩

theorem RecordText.depth (hl : l.Shallow) {d : Nat} (d' : Nat) {e : Bytes} {x : σ} (h : l.RecordText (d + 1) e x) :
    l.RecordText (d' + 1) e x := by
  obtain ⟨k, hk, ⟨t, ht, rfl⟩ | ⟨t, ms, hm, hg, rfl⟩⟩ := h
  · exact ⟨d', rfl, .inl ⟨t, ht.depth d' hl, rfl⟩⟩
  · exact ⟨d', rfl, .inr ⟨t, ms, hm.imp fun _ _ _ he => he.depth hl d', hg, rfl⟩⟩

private theorem Positions.wellFormed {d : Nat} {fields : List (Field σ)} {record x : σ} {first : Bool} {t : Bytes}
    (h : Positions d fields record first t x)
    (hf : ∀ f ∈ fields, ∀ d e change, Exactly (f.decoder d) e change → IsValue e) :
    WellFormed (.inside .list first) t := by
  induction h with
  | close hw => exact .close hw
  | item hg he _ ih =>
    have hv := hf _ (List.mem_cons_self ..) _ _ _ he
    exact .item hg hv (ih fun f hm => hf f (List.mem_cons_of_mem _ hm))

private theorem members_wellFormed (hl : l.Valued) {d : Nat} {first : Bool} {t : Bytes}
    {ms : List (String × Effect σ)} (h : Members (l.MemberText d) first t ms) (hr : ∀ m ∈ ms, m.2 ≠ .refused) :
    WellFormed (.inside .object first) t := by
  induction h with
  | close hw => exact .close hw
  | @member _ g k u w e t key effect ms hg hk hu hw he _ ih =>
    obtain ⟨hne, hr⟩ := List.forall_mem_cons.mp hr
    have hv : IsValue e := by
      cases effect with
      | none => exact he.2
      | refused => exact absurd rfl hne
      | put change =>
        obtain ⟨f, hf, hx⟩ := he
        exact hl f (field?_eq_some hf).1 d e change hx
    exact .member hg hk.scans hu hw hv (ih hr)

/-- What is read as a record is a well-formed value. -/
theorem RecordText.isValue (hl : l.Valued) {d : Nat} {e : Bytes} {x : σ} (h : l.RecordText d e x) : IsValue e := by
  obtain ⟨k, -, ⟨t, ht, rfl⟩ | ⟨t, ms, hm, hg, rfl⟩⟩ := h
  · exact .bracket (k := .list) (ht.wellFormed hl)
  · have hr := (gather_eq_some_iff.mp hg).1
    exact .bracket (k := .object) (members_wellFormed hl hm hr)

theorem ofTexts_shallow (title : String) (blank : σ) (texts : List (String × (String → σ → σ))) :
    (ofTexts title blank texts).Shallow := by
  intro f hf d d'
  obtain ⟨p, -, rfl⟩ := List.mem_map.mp hf
  rfl

theorem ofTexts_valued (title : String) (blank : σ) (texts : List (String × (String → σ → σ))) :
    (ofTexts title blank texts).Valued := by
  intro f hf d e change he
  obtain ⟨p, -, rfl⟩ := List.mem_map.mp hf
  obtain ⟨t, ht, -⟩ := ((Field.nullableText_reads p.1 p.2 d).exactly_iff trivial).mp he
  rcases ht with ⟨rfl, -⟩ | ht
  · exact .scalar .null
  · exact ht.isValue

end Layout
end FlowCluster.Json
