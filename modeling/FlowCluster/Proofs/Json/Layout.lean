import FlowCluster.Json.Layout
import FlowCluster.Proofs.Json.Skip

/-! # Texts of records

The texts that are read as texts, lists and records. A record whose fields are read from their own texts, and from
nothing else, is so read itself; what its members put in is gathered by `gather`, whatever their order. -/

namespace FlowCluster.Json

theorem text_reads (d : Nat) : Reads Anything (text d) Quoted where
  starts := by
    rintro e t ⟨k, -, rfl⟩
    exact ⟨_, _, rfl, by decide, by decide⟩
  sound := by
    rintro s t r ⟨hlt, h⟩
    unfold text at h
    split at h
    · simp at h
    · next b q hb hc =>
      split_ifs at h with hb'
      split at h
      · simp at h
      · next u p hu =>
        simp only [Except.ok.injEq, Prod.mk.injEq] at h
        obtain ⟨rfl, hp⟩ := h
        obtain ⟨k, hk, hq⟩ := string_sound hu
        obtain ⟨w, hw, hs⟩ := eq_append_of_opened (t := k ++ ['"'.toUInt8]) hc hb' (by simpa using hq) hp
        exact ⟨w, _, hw, ⟨k, hk, rfl⟩, hs⟩
  complete := by
    rintro w e t r hw ⟨k, hk, rfl⟩ -
    obtain ⟨h, hs⟩ := string_complete hk r
    rw [List.cons_append, List.append_assoc, List.singleton_append]
    refine ⟨by simp; omega, ?_⟩
    unfold text
    simp [content_append hw (b := '"'.toUInt8) (by decide), hs, Rest.widen]

private theorem not_quoted_null (q : Bytes) (t : String) : ¬Quoted ('n'.toUInt8 :: q) t := by
  rintro ⟨k, -, h⟩
  have : 'n'.toUInt8 = '"'.toUInt8 := (List.cons.inj h).1
  exact absurd this (by decide)

/-- The texts of a value that may be null. -/
def OrNull {α : Type} (blank : α) (R : Bytes → α → Prop) (e : Bytes) (x : α) : Prop :=
  e = Text.Utf8.encode "null" ∧ x = blank ∨ R e x

theorem orNull_reads {α : Type} {blank : α} {decoder : Decoder α} {d : Nat} {R : Bytes → α → Prop}
    (h : Reads Anything (decoder d) R) (hn : ∀ q x, ¬R ('n'.toUInt8 :: q) x) :
    Reads Anything (orNull blank decoder d) (OrNull blank R) where
  starts := by
    rintro e x (⟨rfl, -⟩ | he)
    · exact ⟨_, _, encode_null, by decide, by decide⟩
    · exact h.starts he
  sound := by
    rintro s x r ⟨hlt, ho⟩
    unfold orNull at ho
    split at ho
    · simp at ho
    · next b q hb hc =>
      obtain ⟨w, hw, hs⟩ := eq_append_of_content hc
      split_ifs at ho with hb'
      · split at ho
        · simp at ho
        · next t ht =>
          simp only [Except.ok.injEq, Prod.mk.injEq, Rest.mk.injEq] at ho
          refine ⟨w, _, hw, .inl ⟨rfl, ho.1.symm⟩, ?_⟩
          rw [hs, encode_null, hb', word_sound ht, ho.2]
          rfl
      · split at ho
        · simp at ho
        · next y q' hy =>
          simp only [Except.ok.injEq, Prod.mk.injEq] at ho
          obtain ⟨rfl, hr⟩ := ho
          obtain ⟨v, e, hv, he, hq⟩ := h.sound (s := b :: q) ⟨q'.shorter, hy⟩
          have hr' : q'.bytes = r := by rw [← Rest.widen_bytes q' hb, hr]
          refine ⟨w ++ v, e, blank_append_iff.mpr ⟨hw, hv⟩, .inr he, ?_⟩
          rw [hs, hq, hr', List.append_assoc]
  complete := by
    rintro w e x r hw (⟨rfl, rfl⟩ | he) -
    · obtain ⟨h, hu⟩ := word_complete (Text.Utf8.encode "ull") r
      rw [encode_null, List.cons_append]
      refine ⟨by simp; omega, ?_⟩
      unfold orNull
      simp [content_append hw (b := 'n'.toUInt8) (by decide), hu]
    · obtain ⟨b, q, rfl, hb, -⟩ := h.starts he
      obtain ⟨hlt, hx⟩ : Takes (decoder d) (b :: (q ++ r)) x r := h.takes he trivial
      have hb' : b ≠ 'n'.toUInt8 := by
        rintro rfl
        exact hn q x he
      rw [List.cons_append]
      refine ⟨by simp; omega, ?_⟩
      unfold orNull
      simp only [content_append hw hb, hb', ↓reduceIte, hx, Rest.widen]

/-- The texts of a list of values of one kind. -/
def Listed {α : Type} (R : Nat → Bytes → α → Prop) (d : Nat) (e : Bytes) (xs : List α) : Prop :=
  ∃ k t, d = k + 1 ∧ Items (R k) true t xs ∧ e = '['.toUInt8 :: t

theorem Listed.closed {α : Type} {R : Nat → Bytes → α → Prop} {d : Nat} {e : Bytes} {xs : List α} (h : Listed R d e xs) :
    Closed e := by
  obtain ⟨k, t, -, ht, rfl⟩ := h
  exact ht.closed.append ['['.toUInt8]

theorem list_reads {α : Type} {item : Decoder α} {R : Nat → Bytes → α → Prop} (h : ∀ d, Reads Apart (item d) (R d))
    (d : Nat) : Reads Anything (list item d) (Listed R d) where
  starts := by
    rintro e xs ⟨k, t, -, -, rfl⟩
    exact ⟨_, t, rfl, by decide, by decide⟩
  sound := by
    rintro s xs r ⟨hlt, hl⟩
    unfold list at hl
    split at hl
    · simp at hl
    · next b q hb hc =>
      split_ifs at hl with hb'
      cases d with
      | zero => simp at hl
      | succ k =>
        dsimp only at hl
        split at hl
        · simp at hl
        · next ys p hi =>
          simp only [Except.ok.injEq, Prod.mk.injEq] at hl
          obtain ⟨rfl, hp⟩ := hl
          obtain ⟨t, zs, ht, hq, rfl⟩ := items_sound (h k) hi
          obtain ⟨w, hw, hs⟩ := eq_append_of_opened hc hb' hq hp
          exact ⟨w, _, hw, ⟨k, t, rfl, ht, rfl⟩, hs⟩
  complete := by
    rintro w e xs r hw ⟨k, t, rfl, ht, rfl⟩ -
    obtain ⟨hlt, hi⟩ := items_complete (h k) ht [] r (Nat.le_refl _)
    refine ⟨by simp at hlt ⊢; omega, ?_⟩
    unfold list
    simp [content_append hw (b := '['.toUInt8) (by decide), hi, Rest.widen]

theorem Field.of_reads {σ α : Type} {name : String} {decoder : Decoder α} {put : α → σ → σ} {d : Nat}
    {follow : Bytes → Prop} {R : Bytes → α → Prop} (h : Reads follow (decoder d) R) :
    Reads follow ((Field.of name decoder put).decoder d) (fun e p => ∃ x, R e x ∧ p = put x) where
  starts := by
    rintro e p ⟨x, he, -⟩
    exact h.starts he
  sound := by
    rintro s p r ⟨hlt, hp⟩
    simp only [Field.of] at hp
    split at hp
    · simp at hp
    · next x q hx =>
      simp only [Except.ok.injEq, Prod.mk.injEq] at hp
      obtain ⟨rfl, rfl⟩ := hp
      obtain ⟨w, e, hw, he, hs⟩ := h.sound ⟨hlt, hx⟩
      exact ⟨w, e, hw, ⟨x, he, rfl⟩, hs⟩
  complete := by
    rintro w e p r hw ⟨x, he, rfl⟩ hr
    obtain ⟨hlt, hx⟩ := h.complete hw he hr
    exact ⟨hlt, by simp [Field.of, hx]⟩

theorem Field.nullableText_reads {σ : Type} (name : String) (put : String → σ → σ) (d : Nat) :
    Reads Anything ((Field.nullableText name put).decoder d) (fun e p => ∃ t, OrNull "" Quoted e t ∧ p = put t) :=
  Field.of_reads (orNull_reads (text_reads d) not_quoted_null)

namespace Layout

variable {σ : Type} {l : Layout σ}

/-- Each field is read from texts of its own, up to what cannot go on a number. -/
def Regular (l : Layout σ) : Prop := ∀ f ∈ l.fields, ∀ d, Reads Apart (f.decoder d) (Exactly (f.decoder d))

/-- What a member does to a record. -/
inductive Effect (σ : Type)
  | none
  | refused
  | put (change : σ → σ)

/-- The text of a member's value, and its effect by the field of its name. An unknown name has none, whatever its
well-formed value. -/
def MemberText (l : Layout σ) (d : Nat) (key : String) (e : Bytes) : Effect σ → Prop
  | .none => l.field? key = Option.none ∧ IsValue e
  | .refused => ∃ f, l.field? key = some f ∧
      ∀ w r out, Blank w → Apart r → f.decoder d (w ++ (e ++ r)) ≠ .ok out
  | .put change => ∃ f, l.field? key = some f ∧ Exactly (f.decoder d) e change

/-- The record after members of known effects; `none` if one is refused or its name has been taken before. -/
def gather (taken : List String) (record : σ) : List (String × Effect σ) → Option σ
  | [] => some record
  | (_, .none) :: ms => gather taken record ms
  | (_, .refused) :: _ => Option.none
  | (key, .put change) :: ms => if key ∈ taken then Option.none else gather (key :: taken) (change record) ms

def Effect.apply : Effect σ → σ → σ
  | .put change, record => change record
  | _, record => record

/-- The names of the members that put something in, in their order. -/
def changed (ms : List (String × Effect σ)) : List String :=
  ms.filterMap fun
    | (key, .put _) => some key
    | _ => Option.none

/-- Members are gathered if none is refused and no name comes twice, and then by putting in one after the other. -/
theorem gather_eq_some_iff {taken : List String} {record x : σ} {ms : List (String × Effect σ)} :
    gather taken record ms = some x ↔
      (∀ m ∈ ms, m.2 ≠ .refused) ∧ (changed ms).Nodup ∧ (∀ key ∈ changed ms, key ∉ taken) ∧
        ms.foldl (fun y m => m.2.apply y) record = x := by
  induction ms generalizing taken record with
  | nil => simp [gather, changed]
  | cons m ms ih =>
    obtain ⟨key, effect⟩ := m
    cases effect with
    | none =>
      rw [gather, ih]
      simp [changed, Effect.apply]
    | refused => simp [gather]
    | put change =>
      have hc : changed ((key, .put change) :: ms) = key :: changed ms := by simp [changed]
      rw [gather, hc]
      split_ifs with hk
      · simp only [false_iff, not_and]
        intro _ _ hn
        exact absurd hk (hn key (List.mem_cons_self ..))
      · rw [ih]
        simp only [List.mem_cons, not_or, List.nodup_cons, List.foldl_cons, Effect.apply, forall_eq_or_imp, ne_eq,
          reduceCtorEq, not_false_eq_true, true_and, hk]
        constructor
        · rintro ⟨hr, hn, ht, hx⟩
          exact ⟨hr, ⟨fun h => (ht key h).1 rfl, hn⟩, fun k h => (ht k h).2, hx⟩
        · rintro ⟨hr, ⟨hnot, hn⟩, ht, hx⟩
          refine ⟨hr, hn, fun k h => ⟨?_, ht k h⟩, hx⟩
          rintro rfl
          exact hnot h

theorem field?_eq_some {key : String} {f : Field σ} (h : l.field? key = some f) : f ∈ l.fields ∧ f.name = key :=
  ⟨List.mem_of_find?_eq_some h, by simpa using List.find?_some h⟩

theorem named_sound (hl : l.Regular) {d : Nat} {origin s : Bytes} {taken : List String} {record x : σ} {first : Bool}
    {h : s.length ≤ origin.length} {r : Rest origin} (hn : named l d origin taken record first s h = .ok (x, r)) :
    ∃ t ms, Members (l.MemberText d) first t ms ∧ gather taken record ms = some x ∧ s = t ++ r.bytes := by
  fun_induction named l d origin taken record first s h with
  | case1 => simp at hn
  | case2 taken record first s h q hq =>
    simp only [Except.ok.injEq, Prod.mk.injEq] at hn
    obtain ⟨rfl, rfl⟩ := hn
    obtain ⟨w, hw, hs⟩ := objectTurn_closed_sound hq
    exact ⟨_, [], .close hw, rfl, by simpa using hs⟩
  | case3 => simp at hn
  | case4 => simp at hn
  | case5 => simp at hn
  | case6 taken record first s h t ht key k hk hf c hc q hq _ ih =>
    obtain ⟨t', ms, hms, hg, hr⟩ := ih hn
    obtain ⟨g, hgap, hs⟩ := objectTurn_item_sound ht
    obtain ⟨y, hy, hk⟩ := string_sound hk
    obtain ⟨u, hu, hc⟩ := colon_sound hc
    obtain ⟨w, e, hw, he, heq⟩ := skip_sound hq
    refine ⟨_, (key, .none) :: ms, .member hgap hy hu hw ⟨hf, he⟩ hms, hg, ?_⟩
    rw [hs, hk, hc, heq, hr]
    simp only [List.append_assoc, List.cons_append]
  | case7 => simp at hn
  | case8 => simp at hn
  | case9 => simp at hn
  | case10 taken record first s _ t ht key k hk f hf hnew c hc change q hq _ ih =>
    obtain ⟨t', ms, hms, hg, hr⟩ := ih hn
    obtain ⟨g, hgap, hs⟩ := objectTurn_item_sound ht
    obtain ⟨y, hy, hk⟩ := string_sound hk
    obtain ⟨u, hu, hc⟩ := colon_sound hc
    obtain ⟨hmem, hname⟩ := field?_eq_some hf
    obtain ⟨w, e, hw, he, heq⟩ := (hl f hmem d).sound (s := c.bytes) ⟨q.shorter, hq⟩
    rw [hname] at hnew hg
    refine ⟨_, (key, .put change) :: ms, .member hgap hy hu hw ⟨f, hf, he⟩ hms, by rw [gather, if_neg hnew, hg], ?_⟩
    rw [hs, hk, hc, heq, hr]
    simp only [List.append_assoc, List.cons_append]

/-- Members are read to the record they gather and to the end of their text, or not at all. -/
theorem named_eq_ok_iff (hl : l.Regular) {d : Nat} {origin : Bytes} {first : Bool} {t : Bytes}
    {ms : List (String × Effect σ)} (hm : Members (l.MemberText d) first t ms) {taken : List String} {record x : σ}
    {r : Bytes} (h : (t ++ r).length ≤ origin.length) (q : Rest origin) :
    named l d origin taken record first (t ++ r) h = .ok (x, q) ↔ gather taken record ms = some x ∧ q.bytes = r := by
  induction hm generalizing taken record with
  | @close first w hw =>
    obtain ⟨h', hc⟩ := objectTurn_closed_complete first hw r
    simp only [List.append_assoc, List.singleton_append] at h ⊢
    rw [named, hc]
    obtain ⟨q, hq⟩ := q
    simp [gather, Rest.widen, eq_comm]
  | @member first g k u w e t key effect ms hg hk hu hw he ht ih =>
    simp only [List.append_assoc, List.cons_append] at h ⊢
    obtain ⟨_, ho⟩ := objectTurn_item_complete hg (k ++ '"'.toUInt8 :: (u ++ ':'.toUInt8 :: (w ++ (e ++ (t ++ r)))))
    obtain ⟨_, hk⟩ := string_complete hk (u ++ ':'.toUInt8 :: (w ++ (e ++ (t ++ r))))
    obtain ⟨_, hc⟩ := colon_complete hu (w ++ (e ++ (t ++ r)))
    rw [named, ho]
    cases effect with
    | none =>
      obtain ⟨hf, he⟩ := he
      obtain ⟨_, hv⟩ := skip_complete hw he (ht.apart r)
      simp only [hk, hf, hc, hv, gather]
      exact ih _
    | refused =>
      obtain ⟨f, hf, hv⟩ := he
      simp only [hk, hf, gather, reduceCtorEq, false_and, iff_false]
      split_ifs
      · simp
      · simp only [hc]
        split
        · simp
        · next hv' => exact absurd hv' (hv w (t ++ r) _ hw (ht.apart r))
    | put change =>
      obtain ⟨f, hf, he⟩ := he
      obtain ⟨hmem, hname⟩ := field?_eq_some hf
      obtain ⟨_, hv⟩ := (hl f hmem d).complete hw he (ht.apart r)
      simp only [hk, hf, gather, hname]
      split_ifs
      · simp
      · simp only [hc, hv]
        exact ih _

/-- An object is read to the record its members gather and to its closing bracket, or not at all. -/
theorem decoder_object_eq_ok_iff (hl : l.Regular) {d : Nat} {w t r : Bytes} {ms : List (String × Effect σ)}
    (hw : Blank w) (hm : Members (l.MemberText d) true t ms) {x : σ} (q : Rest (w ++ '\x7b'.toUInt8 :: (t ++ r))) :
    l.decoder (d + 1) (w ++ '\x7b'.toUInt8 :: (t ++ r)) = .ok (x, q) ↔
      gather [] l.blank ms = some x ∧ q.bytes = r := by
  have : '\x7b'.toUInt8 ≠ '['.toUInt8 := by decide
  have hn (q : Rest (t ++ r)) : named l d (t ++ r) [] l.blank true (t ++ r) (Nat.le_refl _) = .ok (x, q) ↔
      gather [] l.blank ms = some x ∧ q.bytes = r := named_eq_ok_iff hl hm _ q
  unfold decoder
  simp only [content_append hw (b := '\x7b'.toUInt8) (by decide), this, ↓reduceIte]
  split
  · next f hf =>
    simp only [reduceCtorEq, false_iff, not_and]
    intro hg _
    have hlt : r.length < (t ++ r).length := by
      cases hm <;> simp <;> omega
    have := (hn ⟨r, hlt⟩).mpr ⟨hg, rfl⟩
    rw [hf] at this
    cases this
  · next y q' hq =>
    simp only [Except.ok.injEq, Prod.mk.injEq]
    constructor
    · rintro ⟨rfl, rfl⟩
      exact (hn q').mp hq
    · rintro ⟨hg, hr⟩
      obtain ⟨hy, hr'⟩ := (named_eq_ok_iff hl hm (Nat.le_refl _) q').mp hq
      obtain ⟨q, hlt⟩ := q
      refine ⟨Option.some.inj (hy.symm.trans hg), ?_⟩
      simp only [Rest.widen, Rest.mk.injEq]
      exact hr'.trans hr.symm

/-- The text of fields by position, with the bracket that closes the list. Those left over keep what they have. -/
inductive Positions (d : Nat) : List (Field σ) → σ → Bool → Bytes → σ → Prop
  | close {fields : List (Field σ)} {record : σ} {first : Bool} {w : Bytes} :
      Blank w → Positions d fields record first (w ++ [']'.toUInt8]) record
  | item {f : Field σ} {fields : List (Field σ)} {record x : σ} {first : Bool} {g e t : Bytes} {change : σ → σ} :
      Gap first g → Exactly (f.decoder d) e change → Positions d fields (change record) false t x →
      Positions d (f :: fields) record first (g ++ (e ++ t)) x

private theorem Positions.apart {d : Nat} {fields : List (Field σ)} {record x : σ} {t : Bytes}
    (h : Positions d fields record false t x) (r : Bytes) : Apart (t ++ r) := by
  cases h with
  | close hw =>
    rw [List.append_assoc, List.singleton_append]
    exact apart_blank_append hw (apart_cons (by decide) _)
  | item hg =>
    rw [List.append_assoc]
    exact hg.apart _

private theorem Positions.closed {d : Nat} {fields : List (Field σ)} {record x : σ} {first : Bool} {t : Bytes}
    (h : Positions d fields record first t x) : Closed t := by
  induction h with
  | close => exact ⟨_, _, rfl, .inl rfl⟩
  | item _ _ _ ih =>
    rw [← List.append_assoc]
    exact ih.append _

theorem positional_sound {d : Nat} {origin s : Bytes} {fields : List (Field σ)}
    (hl : ∀ f ∈ fields, Reads Apart (f.decoder d) (Exactly (f.decoder d))) {record x : σ} {first : Bool}
    {h : s.length ≤ origin.length} {r : Rest origin} (hp : positional d origin fields record first s h = .ok (x, r)) :
    ∃ t, Positions d fields record first t x ∧ s = t ++ r.bytes := by
  induction fields generalizing record first s with
  | nil =>
    unfold positional at hp
    split at hp
    · simp at hp
    · next q hq =>
      simp only [Except.ok.injEq, Prod.mk.injEq] at hp
      obtain ⟨rfl, rfl⟩ := hp
      obtain ⟨w, hw, hs⟩ := listEnd_sound hq
      exact ⟨_, .close hw, by simpa using hs⟩
  | cons f fields ih =>
    unfold positional at hp
    split at hp
    · simp at hp
    · next q hq =>
      simp only [Except.ok.injEq, Prod.mk.injEq] at hp
      obtain ⟨rfl, rfl⟩ := hp
      obtain ⟨w, hw, hs⟩ := listTurn_closed_sound hq
      exact ⟨_, .close hw, by simpa using hs⟩
    · next t ht =>
      split at hp
      · simp at hp
      · next change q hq =>
        obtain ⟨t', ht', hr⟩ := ih (fun f' hf' => hl f' (List.mem_cons_of_mem f hf')) hp
        obtain ⟨g, hg, hs⟩ := listTurn_item_sound ht
        obtain ⟨w, e, hw, he, heq⟩ := (hl f (List.mem_cons_self ..)).sound (s := t.bytes) ⟨q.shorter, hq⟩
        refine ⟨_, .item (hg.append_blank hw) he ht', ?_⟩
        rw [hs, heq, hr]
        simp only [List.append_assoc]

theorem positional_complete {d : Nat} {origin : Bytes} {fields : List (Field σ)} {record x : σ} {first : Bool}
    {t : Bytes} (hp : Positions d fields record first t x)
    (hl : ∀ f ∈ fields, Reads Apart (f.decoder d) (Exactly (f.decoder d))) (r : Bytes)
    (h : (t ++ r).length ≤ origin.length) :
    ∃ h', positional d origin fields record first (t ++ r) h = .ok (x, ⟨r, h'⟩) := by
  induction hp with
  | @close fields record first w hw =>
    simp only [List.append_assoc, List.singleton_append] at h ⊢
    cases fields with
    | nil =>
      obtain ⟨h', hc⟩ := listEnd_complete hw r
      rw [positional, hc]
      exact ⟨Nat.lt_of_lt_of_le h' h, rfl⟩
    | cons f fields =>
      obtain ⟨h', hc⟩ := listTurn_closed_complete first hw r
      rw [positional, hc]
      exact ⟨Nat.lt_of_lt_of_le h' h, rfl⟩
  | @item f fields record x first g e t change hg he ht ih =>
    simp only [List.append_assoc] at h ⊢
    have hf := hl f (List.mem_cons_self ..)
    obtain ⟨_, hc⟩ := listTurn_item_complete hg ((hf.starts he).append (t ++ r))
    obtain ⟨_, hx⟩ := hf.takes he (ht.apart r)
    obtain ⟨h', hp⟩ := ih (fun f' hf' => hl f' (List.mem_cons_of_mem f hf')) (by simp at h ⊢; omega)
    rw [positional, hc]
    simp only [hx, hp]
    exact ⟨h', trivial⟩

/-- The texts of a record: its members in brackets, or its fields by position. -/
def RecordText (l : Layout σ) (d : Nat) (e : Bytes) (x : σ) : Prop :=
  ∃ k, d = k + 1 ∧
    ((∃ t, Positions k l.fields l.blank true t x ∧ e = '['.toUInt8 :: t) ∨
    ∃ t ms, Members (l.MemberText k) true t ms ∧ gather [] l.blank ms = some x ∧ e = '\x7b'.toUInt8 :: t)

theorem RecordText.closed {d : Nat} {e : Bytes} {x : σ} (h : l.RecordText d e x) : Closed e := by
  obtain ⟨k, -, ⟨t, ht, rfl⟩ | ⟨t, ms, hm, -, rfl⟩⟩ := h
  · exact ht.closed.append ['['.toUInt8]
  · exact hm.closed.append ['\x7b'.toUInt8]

theorem not_recordText_null (l : Layout σ) (d : Nat) (q : Bytes) (x : σ) : ¬l.RecordText d ('n'.toUInt8 :: q) x := by
  rintro ⟨k, -, ⟨t, -, h⟩ | ⟨t, ms, -, -, h⟩⟩
  · have : 'n'.toUInt8 = '['.toUInt8 := (List.cons.inj h).1
    exact absurd this (by decide)
  · have : 'n'.toUInt8 = '\x7b'.toUInt8 := (List.cons.inj h).1
    exact absurd this (by decide)

private theorem RecordText.starts {d : Nat} {e : Bytes} {x : σ} (h : l.RecordText d e x) : Starts e := by
  obtain ⟨k, -, ⟨t, -, rfl⟩ | ⟨t, ms, -, -, rfl⟩⟩ := h
  · exact ⟨_, t, rfl, by decide, by decide⟩
  · exact ⟨_, t, rfl, by decide, by decide⟩

private theorem Positions.keeps {P : σ → Prop} {d : Nat} {fields : List (Field σ)} {record x : σ} {first : Bool}
    {t : Bytes} (h : Positions d fields record first t x)
    (hput : ∀ f ∈ fields, ∀ e change y, Exactly (f.decoder d) e change → P y → P (change y)) (hP : P record) : P x := by
  induction h with
  | close => exact hP
  | item _ he _ ih =>
    obtain ⟨hfirst, hrest⟩ := List.forall_mem_cons.mp hput
    exact ih hrest (hfirst _ _ _ he hP)

private theorem gather_keeps {P : σ → Prop} {d : Nat} {first : Bool} {t : Bytes} {ms : List (String × Effect σ)}
    (h : Members (l.MemberText d) first t ms)
    (hput : ∀ f ∈ l.fields, ∀ e change y, Exactly (f.decoder d) e change → P y → P (change y)) {taken : List String}
    {record x : σ} (hP : P record) (hx : gather taken record ms = some x) : P x := by
  induction h generalizing taken record with
  | close => exact Option.some.inj hx ▸ hP
  | @member _ _ _ _ _ _ _ key effect _ _ _ _ _ he _ ih =>
    cases effect with
    | none => exact ih hP hx
    | refused => cases hx
    | put change =>
      obtain ⟨f, hf, he⟩ := he
      rw [gather] at hx
      split_ifs at hx
      exact ih (hput f (field?_eq_some hf).1 _ _ _ he hP) hx

/-- What holds of the blank record and is kept by every field holds of every record that is read. -/
theorem RecordText.keeps {P : σ → Prop} {d : Nat} {e : Bytes} {x : σ} (h : l.RecordText (d + 1) e x)
    (hput : ∀ f ∈ l.fields, ∀ e change y, Exactly (f.decoder d) e change → P y → P (change y)) (hblank : P l.blank) :
    P x := by
  obtain ⟨k, hk, ⟨t, ht, -⟩ | ⟨t, ms, hm, hg, -⟩⟩ := h
  · obtain rfl : d = k := Nat.succ.inj hk
    exact ht.keeps hput hblank
  · obtain rfl : d = k := Nat.succ.inj hk
    exact gather_keeps hm hput hblank hg

private theorem decoder_sound (hl : l.Regular) {d : Nat} {s r : Bytes} {x : σ} (h : Takes (l.decoder d) s x r) :
    ∃ w e, Blank w ∧ l.RecordText d e x ∧ s = w ++ (e ++ r) := by
  obtain ⟨hlt, h⟩ := h
  unfold decoder at h
  split at h
  · simp at h
  · next b q hb hc =>
    split_ifs at h with hl' ho
    · cases d with
      | zero => simp at h
      | succ k =>
        dsimp only at h
        split at h
        · simp at h
        · next y p hp =>
          simp only [Except.ok.injEq, Prod.mk.injEq] at h
          obtain ⟨rfl, hr⟩ := h
          obtain ⟨t, ht, hq⟩ := positional_sound (fun f hf => hl f hf k) hp
          obtain ⟨w, hw, hs⟩ := eq_append_of_opened hc hl' hq hr
          exact ⟨w, _, hw, ⟨k, rfl, .inl ⟨t, ht, rfl⟩⟩, hs⟩
    · cases d with
      | zero => simp at h
      | succ k =>
        dsimp only at h
        split at h
        · simp at h
        · next y p hn =>
          simp only [Except.ok.injEq, Prod.mk.injEq] at h
          obtain ⟨rfl, hr⟩ := h
          obtain ⟨t, ms, hm, hg, hq⟩ := named_sound hl hn
          obtain ⟨w, hw, hs⟩ := eq_append_of_opened hc ho hq hr
          exact ⟨w, _, hw, ⟨k, rfl, .inr ⟨t, ms, hm, hg, rfl⟩⟩, hs⟩

private theorem decoder_complete (hl : l.Regular) {d : Nat} {w e r : Bytes} {x : σ} (hw : Blank w)
    (he : l.RecordText d e x) : Takes (l.decoder d) (w ++ (e ++ r)) x r := by
  obtain ⟨k, rfl, ⟨t, ht, rfl⟩ | ⟨t, ms, hm, hg, rfl⟩⟩ := he
  · obtain ⟨h, hp⟩ := positional_complete ht (fun f hf => hl f hf k) r (Nat.le_refl _)
    refine ⟨by simp at h ⊢; omega, ?_⟩
    unfold decoder
    simp [content_append hw (b := '['.toUInt8) (by decide), hp, Rest.widen]
  · exact ⟨by simp; omega, (decoder_object_eq_ok_iff hl hw hm _).mpr ⟨hg, rfl⟩⟩

/-- Records are read from their texts and from nothing else. -/
theorem decoder_reads (hl : l.Regular) (d : Nat) : Reads Anything (l.decoder d) (l.RecordText d) :=
  ⟨RecordText.starts, decoder_sound hl, fun hw he _ => decoder_complete hl hw he⟩

end Layout

section Read

variable {α : Type} {decoder : Decoder α} {R : Bytes → α → Prop}

theorem read_eq_ok_iff_blank {s : Bytes} {x : α} :
    read decoder s = .ok x ↔ ∃ r, decoder depthLimit s = .ok (x, r) ∧ Blank r.bytes := by
  unfold read
  cases hd : decoder depthLimit s with
  | error f => simp
  | ok p =>
    obtain ⟨y, r⟩ := p
    simp only [Except.ok.injEq, Prod.mk.injEq, ← skipBlank_eq_nil_iff]
    split
    · next hr =>
      simp only [Except.ok.injEq]
      exact ⟨fun h => ⟨r, ⟨h, rfl⟩, hr⟩, fun ⟨_, ⟨h, _⟩, _⟩ => h⟩
    · next hr =>
      simp only [reduceCtorEq, false_iff, not_exists, not_and]
      rintro _ ⟨-, rfl⟩
      exact hr

/-- What follows a text decides only whether the document is read, not what it is read as. -/
theorem read_append_eq_ok_iff (h : Reads Anything (decoder depthLimit) R) {w e r : Bytes} {x y : α} (hw : Blank w)
    (he : R e x) : read decoder (w ++ (e ++ r)) = .ok y ↔ Blank r ∧ y = x := by
  obtain ⟨_, hx⟩ := h.complete hw he (r := r) trivial
  rw [read_eq_ok_iff_blank, hx]
  constructor
  · rintro ⟨q, hq, hb⟩
    simp only [Except.ok.injEq, Prod.mk.injEq] at hq
    obtain ⟨rfl, rfl⟩ := hq
    exact ⟨hb, rfl⟩
  · rintro ⟨hb, rfl⟩
    exact ⟨_, rfl, hb⟩

/-- A document is a text with white space around it. -/
theorem read_eq_ok_iff (h : Reads Anything (decoder depthLimit) R) {s : Bytes} {x : α} :
    read decoder s = .ok x ↔ ∃ w e r, Blank w ∧ R e x ∧ Blank r ∧ s = w ++ (e ++ r) := by
  constructor
  · intro hs
    obtain ⟨r, hr, hb⟩ := read_eq_ok_iff_blank.mp hs
    obtain ⟨w, e, hw, he, heq⟩ := h.sound (s := s) ⟨r.shorter, hr⟩
    exact ⟨w, e, r.bytes, hw, he, hb, heq⟩
  · rintro ⟨w, e, r, hw, he, hr, rfl⟩
    exact (read_append_eq_ok_iff h hw he).mpr ⟨hr, rfl⟩

end Read
end FlowCluster.Json
