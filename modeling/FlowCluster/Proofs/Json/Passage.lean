import FlowCluster.Proofs.Json.Local

/-! # Passing over items

A loop over what is inside a bracket passes over whole items into another state, or it fails at one of them; neither
depends on what follows. One step for each loop says this of one item. Records are made by such loops, so what is made
of a record does not depend on what follows it either. -/

namespace FlowCluster.Json

/-- An item inside a bracket: a value, or a key with its value. -/
def Bracket.Item : Bracket → Bytes → Prop
  | .list, e => IsValue e
  | .object, e => ∃ k u w v, Scans k ∧ Blank u ∧ Blank w ∧ IsValue v ∧
      e = '"'.toUInt8 :: (k ++ '"'.toUInt8 :: (u ++ ':'.toUInt8 :: (w ++ v)))

/-- Whole items inside a bracket. The marks say whether an item before them, or after them, would be the first. -/
inductive Passage (k : Bracket) : Bool → Bool → Bytes → Prop
  | here {first : Bool} : Passage k first first []
  | item {first last : Bool} {g e t : Bytes} :
      Gap first g → k.Item e → Passage k false last t → Passage k first last (g ++ (e ++ t))

theorem Passage.apart {k : Bracket} {last : Bool} {p r : Bytes} (h : Passage k false last p) (hr : Apart r) :
    Apart (p ++ r) := by
  cases h with
  | here => exact hr
  | item hg =>
    rw [List.append_assoc]
    exact hg.apart _

/-- What is inside a bracket are whole items, and its end. -/
theorem WellFormed.exists_passage {k : Bracket} {first : Bool} {t : Bytes} (h : WellFormed (.inside k first) t) :
    ∃ last p w, Passage k first last p ∧ Blank w ∧ t = p ++ (w ++ [k.closing]) := by
  generalize hpart : Part.inside k first = part at h
  induction h generalizing k first with
  | scalar => cases hpart
  | bracket => cases hpart
  | @close _ _ w hw =>
    cases hpart
    exact ⟨_, [], w, .here, hw, rfl⟩
  | @item _ _ _ _ hg he _ _ ih =>
    cases hpart
    obtain ⟨last, p, w, hp, hw, rfl⟩ := ih rfl
    exact ⟨last, _, w, .item hg he hp, hw, by simp⟩
  | @member _ _ k u v e _ hg hk hu hv he _ _ ih =>
    cases hpart
    obtain ⟨last, p, w, hp, hw, rfl⟩ := ih rfl
    exact ⟨last, _, w, .item hg ⟨k, u, v, e, hk, hu, hv, he, rfl⟩ hp, hw, by simp⟩

/-- A loop over what is inside a bracket, by its state and whether an item would be the first. -/
abbrev Loop (S α : Type) :=
  S → Bool → (origin s : Bytes) → s.length ≤ origin.length → Except Fault (α × Rest origin)

/-- The loop passes over `p` into another state, or it fails whatever follows. -/
def Loop.Passes {S α : Type} (loop : Loop S α) (state : S) (first last : Bool) (p : Bytes) : Prop :=
  (∃ f : Fault, ∀ r, Apart r → ∀ origin h, loop state first origin (p ++ r) h = .error (f.ahead r)) ∨
    ∃ state', ∀ r, Apart r → ∀ origin h, ∃ h', loop state first origin (p ++ r) h = loop state' last origin r h'

/-- A loop that passes over one item passes over any number of them. -/
theorem Passage.passes {S α : Type} {loop : Loop S α} {k : Bracket}
    (hstep : ∀ state first g e, Gap first g → k.Item e → loop.Passes state first false (g ++ e)) {first last : Bool}
    {p : Bytes} (hp : Passage k first last p) (state : S) : loop.Passes state first last p := by
  induction hp generalizing state with
  | here => exact .inr ⟨state, fun r _ origin h => ⟨h, rfl⟩⟩
  | @item first last g e t hg he ht ih =>
    rw [← List.append_assoc]
    rcases hstep state first g e hg he with ⟨f, hf⟩ | ⟨next, hnext⟩
    · refine .inl ⟨f.ahead t, fun r hr origin h => ?_⟩
      rw [List.append_assoc] at h
      rw [← Fault.ahead_append, ← hf (t ++ r) (ht.apart hr) origin h]
      simp only [List.append_assoc]
    · rcases ih next with ⟨f, hf⟩ | ⟨state', hstate'⟩
      · refine .inl ⟨f, fun r hr origin h => ?_⟩
        simp only [List.append_assoc] at h hnext ⊢
        obtain ⟨h', hnext⟩ := hnext (t ++ r) (ht.apart hr) origin h
        rw [hnext, hf r hr]
      · refine .inr ⟨state', fun r hr origin h => ?_⟩
        simp only [List.append_assoc] at h hnext ⊢
        obtain ⟨h', hnext⟩ := hnext (t ++ r) (ht.apart hr) origin h
        obtain ⟨h'', hstate'⟩ := hstate' r hr origin h'
        exact ⟨h'', hnext.trans hstate'⟩

/-- Where the bracket is closed, the loop ends. -/
def Loop.Closes {S α : Type} (loop : Loop S α) (k : Bracket) : Prop :=
  ∀ state first w, Blank w → ∃ x, ∀ r origin h, ∃ h', loop state first origin (w ++ k.closing :: r) h = .ok (x, ⟨r, h'⟩)

/-- A loop that passes over one item, and ends where the bracket is closed, ends there after any items, or it fails
whatever follows the bracket. -/
theorem WellFormed.loop {S α : Type} {loop : Loop S α} {k : Bracket}
    (hstep : ∀ state first g e, Gap first g → k.Item e → loop.Passes state first false (g ++ e)) (hclose : loop.Closes k)
    {first : Bool} {t : Bytes} (ht : WellFormed (.inside k first) t) (state : S) :
    (∃ x, ∀ r origin h, ∃ h', loop state first origin (t ++ r) h = .ok (x, ⟨r, h'⟩)) ∨
      ∃ f : Fault, ∀ r origin h, loop state first origin (t ++ r) h = .error (f.ahead r) := by
  obtain ⟨last, p, w, hp, hw, rfl⟩ := ht.exists_passage
  have happend (r : Bytes) : p ++ (w ++ [k.closing]) ++ r = p ++ (w ++ k.closing :: r) := by simp
  have hapart (r : Bytes) : Apart (w ++ k.closing :: r) :=
    apart_blank_append hw (apart_cons (by cases k <;> decide) r)
  rcases hp.passes hstep state with ⟨f, hf⟩ | ⟨state', hstate'⟩
  · refine .inr ⟨f.ahead (w ++ [k.closing]), fun r origin h => ?_⟩
    simp only [happend] at h ⊢
    rw [hf _ (hapart r), ← Fault.ahead_append, List.append_assoc, List.singleton_append]
  · obtain ⟨x, hx⟩ := hclose state' last w hw
    refine .inl ⟨x, fun r origin h => ?_⟩
    simp only [happend] at h ⊢
    obtain ⟨h', hpass⟩ := hstate' _ (hapart r) origin h
    obtain ⟨h'', hx⟩ := hx r origin h'
    exact ⟨h'', hpass.trans hx⟩

section Steps

variable {α σ : Type}

/-- The loop over the items of a list; its state holds those already seen, in reverse. -/
def itemsLoop (item : Reader α) : Loop (List α) (List α) := fun seen first origin s h =>
  items item origin seen first s h

theorem items_step {item : Reader α} (hitem : ∀ e, IsValue e → Local item e) (seen : List α) (first : Bool)
    (g e : Bytes) (hg : Gap first g) (he : Bracket.list.Item e) :
    (itemsLoop item).Passes seen first false (g ++ e) := by
  have hvalue : IsValue e := he
  rcases hitem e hvalue with ⟨x, hx⟩ | ⟨f, hf⟩
  · refine .inr ⟨x :: seen, fun r hr origin h => ?_⟩
    obtain ⟨_, hturn⟩ := listTurn_item_complete hg (hvalue.starts.append r)
    obtain ⟨_, hread⟩ : Takes item (e ++ r) x r := hx [] r blank_nil hr
    simp only [List.append_assoc] at h ⊢
    rw [itemsLoop, items, hturn]
    simp only [hread]
    exact ⟨by simp at h; omega, rfl⟩
  · refine .inl ⟨f, fun r hr origin h => ?_⟩
    obtain ⟨_, hturn⟩ := listTurn_item_complete hg (hvalue.starts.append r)
    have hread : item (e ++ r) = .error (f.ahead r) := hf [] r blank_nil hr
    simp only [List.append_assoc] at h ⊢
    rw [itemsLoop, items, hturn]
    simp only [hread]

theorem IsValue.head_ne_comma {b : UInt8} {e : Bytes} (h : IsValue (b :: e)) : b ≠ ','.toUInt8 := by
  generalize hs : b :: e = s at h
  rintro rfl
  cases h with
  | @bracket k _ _ => cases k <;> exact absurd (List.cons.inj hs).1 (by decide)
  | scalar hscalar =>
    cases hscalar with
    | null => exact absurd (List.cons.inj (hs.trans encode_null)).1 (by decide)
    | true => exact absurd (List.cons.inj (hs.trans encode_true)).1 (by decide)
    | false => exact absurd (List.cons.inj (hs.trans encode_false)).1 (by decide)
    | string => exact absurd (List.cons.inj hs).1 (by decide)
    | number hx =>
      obtain ⟨b, q, rfl, hb⟩ := hx.begins
      exact beginsNumeral_ne hb (c := ','.toUInt8) (by decide) (List.cons.inj hs).1.symm

/-- Where a list must end, an item more is refused whatever follows. -/
theorem listEnd_item {first : Bool} {g e : Bytes} (hg : Gap first g) (he : IsValue e) :
    ∃ f : Fault, ∀ r, listEnd (g ++ (e ++ r)) = .error (f.ahead r) := by
  obtain ⟨b, e', rfl, hb, hclose⟩ := he.starts
  refine ⟨.past (b :: e') .trailingCharacters, fun r => ?_⟩
  rw [← Fault.past_append, List.cons_append]
  cases hg with
  | first hw =>
    unfold listEnd
    simp only [content_append hw hb, hclose, he.head_ne_comma, ↓reduceIte]
  | next hv hw =>
    have hcomma : ','.toUInt8 ≠ ']'.toUInt8 := by decide
    have hskip (w : Bytes) (hw : Blank w) : skipBlank (w ++ b :: (e' ++ r)) = b :: (e' ++ r) :=
      congrArg Tail.bytes (content_append hw hb (e' ++ r))
    rw [List.append_assoc, List.cons_append]
    unfold listEnd
    simp only [content_append hv (b := ','.toUInt8) (by decide), hcomma, ↓reduceIte, hskip _ hw, hclose]

namespace Layout

variable {l : Layout σ} {d : Nat}

/-- What is made of a field does not depend on what follows its value. -/
def HasLocalFields (l : Layout σ) : Prop := ∀ f ∈ l.fields, ∀ d e, IsValue e → Local (f.decoder d) e

theorem ofTexts_hasLocalFields (title : String) (blank : σ) (texts : List (String × (String → σ → σ))) :
    (ofTexts title blank texts).HasLocalFields := by
  intro f hf d e he
  obtain ⟨p, -, rfl⟩ := List.mem_map.mp hf
  exact Field.nullableText_local p.1 p.2 d he

/-- The loop over the values of a record by position; its state holds how many have come, and the record. -/
def positionalLoop (l : Layout σ) (d : Nat) : Loop (Nat × σ) σ := fun state first origin s h =>
  positional d origin (l.fields.drop state.1) state.2 first s h

/-- The loop over the members of a record by name; its state holds the names that have come, and the record. -/
def namedLoop (l : Layout σ) (d : Nat) : Loop (List String × σ) σ := fun state first origin s h =>
  named l d origin state.1 state.2 first s h

theorem positional_step (hl : l.HasLocalFields) (state : Nat × σ) (first : Bool) (g e : Bytes) (hg : Gap first g)
    (he : Bracket.list.Item e) : (l.positionalLoop d).Passes state first false (g ++ e) := by
  have hvalue : IsValue e := he
  obtain ⟨n, record⟩ := state
  cases hfields : l.fields.drop n with
  | nil =>
    obtain ⟨f, hf⟩ := listEnd_item hg hvalue
    refine .inl ⟨f, fun r _ origin h => ?_⟩
    simp only [List.append_assoc] at h ⊢
    rw [positionalLoop]
    simp only [hfields, positional, hf]
  | cons f fields =>
    have hmem : f ∈ l.fields := List.mem_of_mem_drop (hfields ▸ List.mem_cons_self ..)
    have hrest : l.fields.drop (n + 1) = fields := by rw [← List.tail_drop, hfields, List.tail_cons]
    have hturn (r : Bytes) := listTurn_item_complete hg (hvalue.starts.append r)
    rcases hl f hmem d e hvalue with ⟨change, hx⟩ | ⟨fault, hf⟩
    · refine .inr ⟨(n + 1, change record), fun r hr origin h => ?_⟩
      obtain ⟨_, hturn⟩ := hturn r
      obtain ⟨_, hread⟩ : Takes (f.decoder d) (e ++ r) change r := hx [] r blank_nil hr
      simp only [List.append_assoc] at h ⊢
      simp only [positionalLoop, hfields, hrest]
      rw [positional, hturn]
      simp only [hread]
      exact ⟨by simp at h; omega, trivial⟩
    · refine .inl ⟨fault, fun r hr origin h => ?_⟩
      obtain ⟨_, hturn⟩ := hturn r
      have hread : f.decoder d (e ++ r) = .error (fault.ahead r) := hf [] r blank_nil hr
      simp only [List.append_assoc] at h ⊢
      simp only [positionalLoop, hfields]
      rw [positional, hturn]
      simp only [hread]

theorem afterObject_colon {u : Bytes} (hu : Blank u) (s : Bytes) :
    afterObject (u ++ ':'.toUInt8 :: s) = ':'.toUInt8 :: s := by
  have hskip : skipBlank (u ++ ':'.toUInt8 :: s) = ':'.toUInt8 :: s :=
    congrArg Tail.bytes (content_append hu (b := ':'.toUInt8) (by decide) s)
  rw [afterObject, hskip]
  exact if_neg (by decide)

section Member

variable {first : Bool} {g k u s : Bytes} {key : String} {field : Field σ}

theorem named_unknown (hg : Gap first g) (hk : Spells k (Text.Utf8.encode key)) (hu : Blank u)
    (hfield : l.field? key = none) {q : Rest s} (hskip : skip s = .ok q) (taken : List String) (record : σ)
    {origin : Bytes} (h : (g ++ '"'.toUInt8 :: (k ++ '"'.toUInt8 :: (u ++ ':'.toUInt8 :: s))).length ≤ origin.length) :
    ∃ h', named l d origin taken record first (g ++ '"'.toUInt8 :: (k ++ '"'.toUInt8 :: (u ++ ':'.toUInt8 :: s))) h =
      named l d origin taken record false q.bytes h' := by
  obtain ⟨_, hturn⟩ := objectTurn_item_complete hg (k ++ '"'.toUInt8 :: (u ++ ':'.toUInt8 :: s))
  obtain ⟨_, hread⟩ := string_complete hk (u ++ ':'.toUInt8 :: s)
  obtain ⟨_, hcolon⟩ := colon_complete hu s
  have hq := q.shorter
  rw [named, hturn]
  simp only [hread, hfield, hcolon, hskip]
  exact ⟨by simp at h; omega, trivial⟩

theorem named_repeated (hg : Gap first g) (hk : Spells k (Text.Utf8.encode key)) (hu : Blank u)
    (hfield : l.field? key = some field) {taken : List String} (htaken : field.name ∈ taken) (record : σ)
    {origin : Bytes} (h : (g ++ '"'.toUInt8 :: (k ++ '"'.toUInt8 :: (u ++ ':'.toUInt8 :: s))).length ≤ origin.length) :
    named l d origin taken record first (g ++ '"'.toUInt8 :: (k ++ '"'.toUInt8 :: (u ++ ':'.toUInt8 :: s))) h =
      .error (.before (':'.toUInt8 :: s) (.repeatedField field.name)) := by
  obtain ⟨_, hturn⟩ := objectTurn_item_complete hg (k ++ '"'.toUInt8 :: (u ++ ':'.toUInt8 :: s))
  obtain ⟨_, hread⟩ := string_complete hk (u ++ ':'.toUInt8 :: s)
  rw [named, hturn]
  simp only [hread, hfield, htaken, ↓reduceIte, afterObject_colon hu]

theorem named_known (hg : Gap first g) (hk : Spells k (Text.Utf8.encode key)) (hu : Blank u)
    (hfield : l.field? key = some field) {taken : List String} (htaken : field.name ∉ taken) {change : σ → σ}
    {q : Rest s} (hread : field.decoder d s = .ok (change, q)) (record : σ) {origin : Bytes}
    (h : (g ++ '"'.toUInt8 :: (k ++ '"'.toUInt8 :: (u ++ ':'.toUInt8 :: s))).length ≤ origin.length) :
    ∃ h', named l d origin taken record first (g ++ '"'.toUInt8 :: (k ++ '"'.toUInt8 :: (u ++ ':'.toUInt8 :: s))) h =
      named l d origin (field.name :: taken) (change record) false q.bytes h' := by
  obtain ⟨_, hturn⟩ := objectTurn_item_complete hg (k ++ '"'.toUInt8 :: (u ++ ':'.toUInt8 :: s))
  obtain ⟨_, hkey⟩ := string_complete hk (u ++ ':'.toUInt8 :: s)
  obtain ⟨_, hcolon⟩ := colon_complete hu s
  have hq := q.shorter
  rw [named, hturn]
  simp only [hkey, hfield, htaken, ↓reduceIte, hcolon, hread]
  exact ⟨by simp at h; omega, trivial⟩

theorem named_refused (hg : Gap first g) (hk : Spells k (Text.Utf8.encode key)) (hu : Blank u)
    (hfield : l.field? key = some field) {taken : List String} (htaken : field.name ∉ taken) {f : Fault}
    (hread : field.decoder d s = .error f) (record : σ) {origin : Bytes}
    (h : (g ++ '"'.toUInt8 :: (k ++ '"'.toUInt8 :: (u ++ ':'.toUInt8 :: s))).length ≤ origin.length) :
    named l d origin taken record first (g ++ '"'.toUInt8 :: (k ++ '"'.toUInt8 :: (u ++ ':'.toUInt8 :: s))) h =
      .error f := by
  obtain ⟨_, hturn⟩ := objectTurn_item_complete hg (k ++ '"'.toUInt8 :: (u ++ ':'.toUInt8 :: s))
  obtain ⟨_, hkey⟩ := string_complete hk (u ++ ':'.toUInt8 :: s)
  obtain ⟨_, hcolon⟩ := colon_complete hu s
  rw [named, hturn]
  simp only [hkey, hfield, htaken, ↓reduceIte, hcolon, hread]

end Member

theorem named_step (hl : l.HasLocalFields) (state : List String × σ) (first : Bool) (g e : Bytes) (hg : Gap first g)
    (he : Bracket.object.Item e) : (l.namedLoop d).Passes state first false (g ++ e) := by
  obtain ⟨taken, record⟩ := state
  obtain ⟨k, u, w, v, hk, hu, hw, hv, rfl⟩ := he
  have happend (r : Bytes) : g ++ '"'.toUInt8 :: (k ++ '"'.toUInt8 :: (u ++ ':'.toUInt8 :: (w ++ v))) ++ r =
      g ++ '"'.toUInt8 :: (k ++ '"'.toUInt8 :: (u ++ ':'.toUInt8 :: (w ++ (v ++ r)))) := by simp
  rcases hk.text_or with ⟨key, hkey⟩ | ⟨f, hf⟩
  · cases hfield : l.field? key with
    | none =>
      refine .inr ⟨(taken, record), fun r hr origin h => ?_⟩
      obtain ⟨_, hskip⟩ := skip_complete hw hv hr
      simp only [happend] at h ⊢
      exact named_unknown hg hkey hu hfield hskip taken record h
    | some field =>
      by_cases htaken : field.name ∈ taken
      · refine .inl ⟨.before (':'.toUInt8 :: (w ++ v)) (.repeatedField field.name), fun r _ origin h => ?_⟩
        rw [← Fault.before_append]
        simp only [happend, List.cons_append, List.append_assoc] at h ⊢
        exact named_repeated hg hkey hu hfield htaken record h
      · rcases hl field (field?_eq_some hfield).1 d v hv with ⟨change, hx⟩ | ⟨f, hf⟩
        · refine .inr ⟨(field.name :: taken, change record), fun r hr origin h => ?_⟩
          obtain ⟨_, hread⟩ := hx w r hw hr
          simp only [happend] at h ⊢
          exact named_known hg hkey hu hfield htaken hread record h
        · refine .inl ⟨f, fun r hr origin h => ?_⟩
          simp only [happend] at h ⊢
          exact named_refused hg hkey hu hfield htaken (hf w r hw hr) record h
  · -- The key denotes no text, so it is refused before its value is met.
    refine .inl ⟨f.ahead (u ++ ':'.toUInt8 :: (w ++ v)), fun r _ origin h => ?_⟩
    obtain ⟨_, hturn⟩ := objectTurn_item_complete hg (k ++ '"'.toUInt8 :: (u ++ ':'.toUInt8 :: (w ++ (v ++ r))))
    simp only [happend] at h ⊢
    rw [namedLoop, named, hturn, ← Fault.ahead_append]
    simp only [hf, List.append_assoc, List.cons_append]

theorem positional_closes (l : Layout σ) (d : Nat) : (l.positionalLoop d).Closes .list := by
  rintro ⟨n, record⟩ first w hw
  refine ⟨record, fun r origin h => ?_⟩
  simp only [Bracket.closing] at h ⊢
  cases hfields : l.fields.drop n with
  | nil =>
    obtain ⟨h', hend⟩ := listEnd_complete hw r
    simp only [positionalLoop, hfields, positional, hend]
    exact ⟨Nat.lt_of_lt_of_le h' h, rfl⟩
  | cons f fields =>
    obtain ⟨h', hturn⟩ := listTurn_closed_complete first hw r
    simp only [positionalLoop, hfields]
    rw [positional, hturn]
    exact ⟨Nat.lt_of_lt_of_le h' h, rfl⟩

theorem named_closes (l : Layout σ) (d : Nat) : (l.namedLoop d).Closes .object := by
  rintro ⟨taken, record⟩ first w hw
  refine ⟨record, fun r origin h => ?_⟩
  obtain ⟨h', hturn⟩ := objectTurn_closed_complete first hw r
  simp only [Bracket.closing] at h ⊢
  rw [namedLoop, named, hturn]
  exact ⟨Nat.lt_of_lt_of_le h' h, rfl⟩

/-- Reads a record after its opening bracket. -/
def inside (l : Layout σ) (d : Nat) : Bracket → Reader σ
  | .list => fun s => positional d s l.fields l.blank true s (length_le_self s)
  | .object => fun s => named l d s [] l.blank true s (length_le_self s)

/-- Where a bracket opens, what is inside it decides. -/
theorem decoder_opening {k : Bracket} {w : Bytes} (hw : Blank w) (s : Bytes) :
    ∃ h, l.decoder (d + 1) (w ++ k.opening :: s) = (l.inside d k s).map fun p => (p.1, p.2.widen h) := by
  unfold decoder
  rw [content_append hw (isBlank_opening k)]
  have hle : s.length ≤ (w ++ k.opening :: s).length := by simp; omega
  refine ⟨hle, ?_⟩
  cases k with
  | list =>
    simp only [Bracket.opening, ↓reduceIte, inside]
    cases positional d s l.fields l.blank true s (length_le_self s) <;> rfl
  | object =>
    have hne : '\x7b'.toUInt8 ≠ '['.toUInt8 := by decide
    simp only [Bracket.opening, hne, ↓reduceIte, inside]
    cases named l d s [] l.blank true s (length_le_self s) <;> rfl

theorem decoder_takes {k : Bracket} {w s q : Bytes} {x : σ} (hw : Blank w) (h : Takes (l.inside d k) s x q) :
    Takes (l.decoder (d + 1)) (w ++ k.opening :: s) x q := by
  obtain ⟨hlt, h⟩ := h
  obtain ⟨hle, hopening⟩ := decoder_opening (l := l) (d := d) hw s
  exact ⟨Nat.lt_of_lt_of_le hlt hle, hopening.trans (congrArg _ h)⟩

theorem decoder_error {k : Bracket} {w s : Bytes} {f : Fault} (hw : Blank w) (h : l.inside d k s = .error f) :
    l.decoder (d + 1) (w ++ k.opening :: s) = .error f := by
  obtain ⟨_, hopening⟩ := decoder_opening (l := l) (d := d) hw s
  exact hopening.trans (congrArg _ h)

private theorem inside_local (hl : l.HasLocalFields) {k : Bracket} {t : Bytes} (ht : WellFormed (.inside k true) t) :
    (∃ x, ∀ r, Takes (l.inside d k) (t ++ r) x r) ∨ ∃ f : Fault, ∀ r, l.inside d k (t ++ r) = .error (f.ahead r) := by
  cases k with
  | list =>
    rcases ht.loop (positional_step (d := d) hl) (positional_closes l d) (0, l.blank) with ⟨x, hx⟩ | ⟨f, hf⟩
    · exact .inl ⟨x, fun r => hx r (t ++ r) (length_le_self _)⟩
    · exact .inr ⟨f, fun r => hf r (t ++ r) (length_le_self _)⟩
  | object =>
    rcases ht.loop (named_step (d := d) hl) (named_closes l d) ([], l.blank) with ⟨x, hx⟩ | ⟨f, hf⟩
    · exact .inl ⟨x, fun r => hx r (t ++ r) (length_le_self _)⟩
    · exact .inr ⟨f, fun r => hf r (t ++ r) (length_le_self _)⟩

/-- What is made of a record does not depend on what follows it. -/
theorem decoder_local (hl : l.HasLocalFields) (d : Nat) {e : Bytes} (he : IsValue e) : Local (l.decoder d) e := by
  cases he with
  | scalar hs =>
    obtain ⟨b, e', rfl, hb, -, hopening, -⟩ := skipScalar_complete hs
    have hl : b ≠ '['.toUInt8 := by
      rintro rfl
      cases hopening
    have ho : b ≠ '\x7b'.toUInt8 := by
      rintro rfl
      cases hopening
    obtain ⟨_, _, hsame, -, hmismatch⟩ := IsValue.exists_mismatch (.scalar hs)
    obtain ⟨rfl, rfl⟩ := List.cons.inj hsame
    obtain ⟨f, hf⟩ := hmismatch ("struct " ++ l.title)
    refine .inr ⟨f, fun w r hw hr => ?_⟩
    rw [List.cons_append, decoder]
    simp only [content_append hw hb, hl, ho, ↓reduceIte, hf r hr]
  | @bracket k t ht =>
    cases d with
    | zero =>
      refine .inr ⟨.past (k.opening :: t) .tooDeep, fun w r hw _ => ?_⟩
      rw [← Fault.past_append, List.cons_append]
      unfold decoder
      rw [content_append hw (isBlank_opening k)]
      cases k <;> rfl
    | succ d =>
      rcases inside_local hl ht with ⟨x, hx⟩ | ⟨f, hf⟩
      · exact .inl ⟨x, fun w r hw _ => decoder_takes hw (hx r)⟩
      · exact .inr ⟨f, fun w r hw _ => decoder_error hw (hf r)⟩

end Layout
end Steps

end FlowCluster.Json
