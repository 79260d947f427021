import FlowCluster.Proofs.Json.Layout

/-! # What values mean to fields of text

A field of text knows three kinds of values: null, a string that is text, and all others. The members of an object
with their kinds determine the record that is read from it. -/

namespace FlowCluster.Json

/-- What a well-formed value is to a field of text. -/
inductive Content
  | null
  | text (value : String)
  | other
  deriving DecidableEq

inductive Means : Bytes → Content → Prop
  | null : Means (Text.Utf8.encode "null") .null
  | text {e : Bytes} {t : String} : Quoted e t → Means e (.text t)
  | other {e : Bytes} : IsValue e → e ≠ Text.Utf8.encode "null" → (∀ t, ¬Quoted e t) → Means e .other

/-- An object with white space around it, and its members in their order. -/
def ObjectText (s : Bytes) (ms : List (String × Content)) : Prop :=
  ∃ v t w, Blank v ∧ Members (fun _ => Means) true t ms ∧ Blank w ∧ s = v ++ '\x7b'.toUInt8 :: (t ++ w)

/-- The members whose keys are among some names, in their order. -/
def known (names : List String) (ms : List (String × Content)) : List (String × Content) :=
  ms.filter (·.1 ∈ names)

/-- None of some names comes twice, and each that comes has a text or null. -/
def Sensible (names : List String) (ms : List (String × Content)) : Prop :=
  ((known names ms).map Prod.fst).Nodup ∧ ∀ m ∈ known names ms, m.2 ≠ .other

instance (names : List String) (ms : List (String × Content)) : Decidable (Sensible names ms) :=
  inferInstanceAs (Decidable (_ ∧ _))

/-- The text of a content that is one, and else the empty text. -/
def Content.denotes : Content → String
  | .text t => t
  | _ => ""

/-- The text under a name; empty if the name does not come. -/
def denoted (ms : List (String × Content)) (name : String) : String := (ms.lookup name).elim "" Content.denotes

/-- Every well-formed value has a content. -/
theorem IsValue.exists_means {e : Bytes} (h : IsValue e) : ∃ c, Means e c := by
  by_cases hn : e = Text.Utf8.encode "null"
  · exact ⟨.null, hn ▸ .null⟩
  · by_cases ht : ∃ t, Quoted e t
    · obtain ⟨t, ht⟩ := ht
      exact ⟨.text t, .text ht⟩
    · exact ⟨.other, .other h hn (not_exists.mp ht)⟩

theorem Quoted.isValue {e : Bytes} {t : String} (h : Quoted e t) : IsValue e := by
  obtain ⟨k, hk, rfl⟩ := h
  exact .scalar (.string hk.scans)

theorem Means.isValue {e : Bytes} {c : Content} (h : Means e c) : IsValue e := by
  cases h with
  | null => exact .scalar .null
  | text ht => exact ht.isValue
  | other hv => exact hv

/-- So every object whose keys are text has members with contents. -/
theorem Members.exists_means {α : Type} {first : Bool} {t : Bytes} {ks : List (String × α)}
    (h : Members (fun _ e _ => IsValue e) first t ks) :
    ∃ ms, Members (fun _ => Means) first t ms ∧ ms.map Prod.fst = ks.map Prod.fst := by
  induction h with
  | close hw => exact ⟨[], .close hw, rfl⟩
  | @member _ _ _ _ _ _ _ key _ _ hg hk hu hw he _ ih =>
    obtain ⟨c, hc⟩ := he.exists_means
    obtain ⟨ms, hms, hkeys⟩ := ih
    exact ⟨(key, c) :: ms, .member hg hk hu hw hc hms, by simp [hkeys]⟩

/-- The letter `n` begins nothing but a null, and a quote nothing but a string. -/
theorem ScalarForm.begins {e : Bytes} (h : ScalarForm e) :
    (e = Text.Utf8.encode "null" ∨ ∀ q, e ≠ 'n'.toUInt8 :: q) ∧
      ((∃ k, Scans k ∧ e = '"'.toUInt8 :: (k ++ ['"'.toUInt8])) ∨ ∀ q, e ≠ '"'.toUInt8 :: q) := by
  cases h with
  | null =>
    refine ⟨.inl rfl, .inr fun q => ?_⟩
    rw [encode_null]
    exact fun h => absurd (List.cons.inj h).1 (by decide)
  | true =>
    rw [encode_true]
    exact ⟨.inr fun q h => absurd (List.cons.inj h).1 (by decide), .inr fun q h => absurd (List.cons.inj h).1 (by decide)⟩
  | false =>
    rw [encode_false]
    exact ⟨.inr fun q h => absurd (List.cons.inj h).1 (by decide), .inr fun q h => absurd (List.cons.inj h).1 (by decide)⟩
  | string hk => exact ⟨.inr fun q h => absurd (List.cons.inj h).1 (by decide), .inl ⟨_, hk, rfl⟩⟩
  | number hx =>
    obtain ⟨b, q, rfl, hb⟩ := hx.begins
    exact ⟨.inr fun q h => beginsNumeral_ne hb (by decide) (List.cons.inj h).1,
      .inr fun q h => beginsNumeral_ne hb (by decide) (List.cons.inj h).1⟩

/-- A well-formed value that goes on like a null or a text is that null or that text. -/
private theorem IsValue.eq_of_append {e f r q : Bytes} {t : String} (he : IsValue e) (hf : OrNull "" Quoted f t)
    (h : e ++ r = f ++ q) : e = f := by
  cases he with
  | @bracket k e _ =>
    rw [List.cons_append] at h
    rcases hf with ⟨rfl, -⟩ | ⟨k', -, rfl⟩
    · rw [encode_null, List.cons_append] at h
      cases k <;> exact absurd (List.cons.inj h).1 (by decide)
    · rw [List.cons_append] at h
      cases k <;> exact absurd (List.cons.inj h).1 (by decide)
  | scalar hs =>
    obtain ⟨hn, ht⟩ := hs.begins
    obtain ⟨b, e', rfl, -⟩ := skipScalar_complete hs
    rcases hf with ⟨rfl, -⟩ | ⟨k, hk, rfl⟩
    · rw [encode_null, List.cons_append, List.cons_append] at h
      rcases hn with hn | hn
      · exact hn
      · exact absurd (by rw [(List.cons.inj h).1]) (hn e')
    · simp only [List.cons_append, List.append_assoc, List.nil_append] at h
      rcases ht with ⟨k', hk', ht⟩ | ht
      · rw [ht]
        obtain ⟨rfl, rfl⟩ := List.cons.inj ht
        have := (List.cons.inj h).2
        rw [List.append_assoc, List.singleton_append] at this
        rw [hk'.append_inj hk.scans this]
      · exact absurd (by rw [(List.cons.inj h).1]) (ht e')

private theorem lookup_eq_none {names : List String} {ms : List (String × Content)} {name : String}
    (hname : name ∈ names) (h : name ∉ (known names ms).map Prod.fst) : ms.lookup name = none := by
  rw [List.lookup_eq_none_iff]
  intro p hp
  rw [bne_iff_ne]
  rintro rfl
  exact h (List.mem_map_of_mem (List.mem_filter.mpr ⟨hp, by simpa using hname⟩))

private theorem Sensible.tail {names : List String} {m : String × Content} {ms : List (String × Content)}
    (h : Sensible names (m :: ms)) : Sensible names ms := by
  have hsub : (known names ms).Sublist (known names (m :: ms)) := (List.sublist_cons_self m ms).filter _
  exact ⟨h.1.sublist (hsub.map Prod.fst), fun n hn => h.2 n (hsub.subset hn)⟩

private theorem Sensible.head {names : List String} {m : String × Content} {ms : List (String × Content)}
    (h : Sensible names (m :: ms)) (hm : m.1 ∈ names) : m.2 ≠ .other ∧ m.1 ∉ (known names ms).map Prod.fst := by
  have hcons : known names (m :: ms) = m :: known names ms := List.filter_cons_of_pos (by simpa using hm)
  simp only [Sensible, hcons, List.map_cons, List.nodup_cons, List.forall_mem_cons] at h
  exact ⟨h.2.1, h.1.1⟩

private theorem Sensible.lookup_eq_some_iff {names : List String} {ms : List (String × Content)}
    (h : Sensible names ms) {name : String} (hname : name ∈ names) {c : Content} :
    ms.lookup name = some c ↔ (name, c) ∈ known names ms := by
  induction ms with
  | nil => simp [known]
  | cons m ms ih =>
    obtain ⟨key, d⟩ := m
    by_cases hk : key = name
    · subst hk
      have hcons : known names ((key, d) :: ms) = (key, d) :: known names ms :=
        List.filter_cons_of_pos (by simpa using hname)
      have hnot : (key, c) ∉ known names ms := fun hc => (h.head hname).2 (List.mem_map.mpr ⟨_, hc, rfl⟩)
      simp [hcons, hnot, eq_comm]
    · have hne : (name == key) = false := by simpa using Ne.symm hk
      rw [List.lookup_cons, hne, ih h.tail]
      simp [known, List.mem_cons, Ne.symm hk]

private theorem Sensible.perm {names : List String} {ms ns : List (String × Content)}
    (hp : (known names ms).Perm (known names ns)) (h : Sensible names ms) :
    Sensible names ns ∧ ∀ name ∈ names, denoted ms name = denoted ns name := by
  have hn : Sensible names ns :=
    ⟨(hp.map Prod.fst).nodup_iff.mp h.1, fun m hm => h.2 m (hp.mem_iff.mpr hm)⟩
  refine ⟨hn, fun name hname => ?_⟩
  have hl : ms.lookup name = ns.lookup name := by
    ext c
    rw [h.lookup_eq_some_iff hname, hn.lookup_eq_some_iff hname, hp.mem_iff]
  rw [denoted, denoted, hl]

/-- What depends on the texts under known names does not depend on the order of known members or on the others. -/
theorem sensible_congr {α : Type} {names : List String} {ms ns : List (String × Content)}
    {of : List (String × Content) → α}
    (hof : ∀ {ms ns}, (∀ name ∈ names, denoted ms name = denoted ns name) → of ms = of ns)
    (hp : (known names ms).Perm (known names ns)) {x : α} :
    Sensible names ms ∧ x = of ms ↔ Sensible names ns ∧ x = of ns := by
  constructor
  · rintro ⟨hs, rfl⟩
    obtain ⟨hs', hd⟩ := hs.perm hp
    exact ⟨hs', hof hd⟩
  · rintro ⟨hs, rfl⟩
    obtain ⟨hs', hd⟩ := hs.perm hp.symm
    exact ⟨hs', hof hd⟩

namespace Layout

variable {σ : Type}

/-- A layout whose fields are texts, each null at will. -/
def ofTexts (title : String) (blank : σ) (texts : List (String × (String → σ → σ))) : Layout σ where
  title := title
  blank := blank
  fields := texts.map fun p => .nullableText p.1 p.2

/-- What a value does under a name. -/
def effectOf (texts : List (String × (String → σ → σ))) (key : String) (c : Content) : Effect σ :=
  match texts.find? (·.1 == key), c with
  | none, _ => .none
  | some p, .null => .put (p.2 "")
  | some p, .text t => .put (p.2 t)
  | some _, .other => .refused

theorem ofTexts_regular (title : String) (blank : σ) (texts : List (String × (String → σ → σ))) :
    (ofTexts title blank texts).Regular := by
  intro f hf d
  obtain ⟨p, -, rfl⟩ := List.mem_map.mp hf
  exact (Field.nullableText_reads p.1 p.2 d).exactly_apart

private theorem field?_ofTexts (title : String) (blank : σ) (texts : List (String × (String → σ → σ))) (key : String) :
    (ofTexts title blank texts).field? key =
      (texts.find? (·.1 == key)).map fun p => .nullableText p.1 p.2 :=
  List.find?_map ..

theorem memberText_of_means (title : String) (blank : σ) (texts : List (String × (String → σ → σ))) (d : Nat)
    (key : String) {e : Bytes} {c : Content} (h : Means e c) :
    (ofTexts title blank texts).MemberText d key e (effectOf texts key c) := by
  have hf := field?_ofTexts title blank texts key
  cases hp : texts.find? (·.1 == key) with
  | none =>
    rw [hp] at hf
    simp only [effectOf, hp]
    exact ⟨hf, h.isValue⟩
  | some p =>
    rw [hp, Option.map_some] at hf
    have hr := Field.nullableText_reads p.1 p.2 d
    cases h with
    | null =>
      simp only [effectOf, hp]
      exact ⟨_, hf, (hr.exactly_iff trivial).mpr ⟨"", .inl ⟨rfl, rfl⟩, rfl⟩⟩
    | text ht =>
      simp only [effectOf, hp]
      exact ⟨_, hf, (hr.exactly_iff trivial).mpr ⟨_, .inr ht, rfl⟩⟩
    | other hv hn ht =>
      simp only [effectOf, hp]
      refine ⟨_, hf, ?_⟩
      -- Were it read, what was read would be a null or a text at its front, and so the whole of it.
      rintro w r ⟨change, q⟩ hw - ho
      obtain ⟨v, f, hv', ⟨t, hft, -⟩, hs⟩ := hr.sound (s := w ++ (e ++ r)) ⟨q.shorter, ho⟩
      have hstarts := hr.starts ⟨t, hft, rfl⟩
      obtain ⟨-, heq⟩ := blank_append_inj hw hv' (hv.starts.append r) (hstarts.append q.bytes) hs
      obtain rfl := hv.eq_of_append hft heq
      rcases hft with ⟨rfl, -⟩ | hft
      · exact hn rfl
      · exact ht t hft

def effects (texts : List (String × (String → σ → σ))) (ms : List (String × Content)) : List (String × Effect σ) :=
  ms.map fun m => (m.1, effectOf texts m.1 m.2)

theorem members_effects (title : String) (blank : σ) (texts : List (String × (String → σ → σ))) (d : Nat)
    {first : Bool} {t : Bytes} {ms : List (String × Content)} (h : Members (fun _ => Means) first t ms) :
    Members ((ofTexts title blank texts).MemberText d) first t (effects texts ms) := by
  induction h with
  | close hw => exact .close hw
  | member hg hk hu hw he _ ih => exact .member hg hk hu hw (memberText_of_means title blank texts d _ he) ih

private theorem find?_eq_none_iff {texts : List (String × (String → σ → σ))} {key : String} :
    texts.find? (·.1 == key) = none ↔ key ∉ texts.map Prod.fst := by
  simp only [List.find?_eq_none, beq_iff_eq, List.mem_map, not_exists, not_and]

private theorem effectOf_unknown {texts : List (String × (String → σ → σ))} {key : String}
    (h : key ∉ texts.map Prod.fst) (c : Content) : effectOf texts key c = .none := by
  simp [effectOf, find?_eq_none_iff.mpr h]

/-- The effect of a known name is that of the first field of the name. -/
private theorem effectOf_known {texts : List (String × (String → σ → σ))} {key : String}
    (h : key ∈ texts.map Prod.fst) :
    ∃ put, (key, put) ∈ texts ∧ effectOf texts key .null = .put (put "") ∧
      (∀ t, effectOf texts key (.text t) = .put (put t)) ∧ effectOf texts key .other = .refused := by
  obtain ⟨p, hp⟩ := Option.ne_none_iff_exists'.mp (mt find?_eq_none_iff.mp (not_not_intro h))
  have hkey : p.1 = key := by simpa using List.find?_some hp
  refine ⟨p.2, ?_, by simp [effectOf, hp], by simp [effectOf, hp], by simp [effectOf, hp]⟩
  rw [← hkey]
  exact List.mem_of_find?_eq_some hp

private theorem exists_put {texts : List (String × (String → σ → σ))} {key : String} {c : Content}
    (h : key ∈ texts.map Prod.fst) (hc : c ≠ .other) : ∃ change, effectOf texts key c = .put change := by
  obtain ⟨put, -, hn, ht, -⟩ := effectOf_known h
  cases c with
  | null => exact ⟨_, hn⟩
  | text t => exact ⟨_, ht t⟩
  | other => exact absurd rfl hc

private theorem effectOf_eq_refused_iff {texts : List (String × (String → σ → σ))} {key : String} {c : Content} :
    effectOf texts key c = .refused ↔ key ∈ texts.map Prod.fst ∧ c = .other := by
  by_cases h : key ∈ texts.map Prod.fst
  · obtain ⟨put, -, hn, ht, ho⟩ := effectOf_known h
    cases c with
    | null => simp [hn]
    | text t => simp [ht]
    | other => simp only [ho, h, true_and]
  · simp [effectOf_unknown h, h]

private theorem changed_effects {texts : List (String × (String → σ → σ))} {ms : List (String × Content)}
    (h : ∀ m ∈ known (texts.map Prod.fst) ms, m.2 ≠ .other) :
    changed (effects texts ms) = (known (texts.map Prod.fst) ms).map Prod.fst := by
  induction ms with
  | nil => rfl
  | cons m ms ih =>
    obtain ⟨key, c⟩ := m
    by_cases hk : key ∈ texts.map Prod.fst
    · have hcons : known (texts.map Prod.fst) ((key, c) :: ms) = (key, c) :: known (texts.map Prod.fst) ms :=
        List.filter_cons_of_pos (by simpa using hk)
      rw [hcons] at h ⊢
      have hms := ih fun m hm => h m (List.mem_cons_of_mem _ hm)
      obtain ⟨change, he⟩ := exists_put hk (h (key, c) (List.mem_cons_self ..))
      have hc : changed (effects texts ((key, c) :: ms)) = key :: changed (effects texts ms) := by
        simp [changed, effects, he]
      rw [hc, hms, List.map_cons]
    · have hcons : known (texts.map Prod.fst) ((key, c) :: ms) = known (texts.map Prod.fst) ms :=
        List.filter_cons_of_neg (by simpa using hk)
      rw [hcons] at h ⊢
      have hc : changed (effects texts ((key, c) :: ms)) = changed (effects texts ms) := by
        simp [changed, effects, effectOf_unknown hk]
      rw [hc, ih h]

/-- A whole object is read as the record that its members gather. -/
theorem read_members_eq_ok_iff {l : Layout σ} (hl : l.Regular) {v t w : Bytes} {es : List (String × Effect σ)}
    (hv : Blank v) (hm : Members (l.MemberText (depthLimit - 1)) true t es) (hw : Blank w) {x : σ} :
    read l.decoder (v ++ '\x7b'.toUInt8 :: (t ++ w)) = .ok x ↔ gather [] l.blank es = some x := by
  have hd (q : Rest (v ++ '\x7b'.toUInt8 :: (t ++ w))) :
      l.decoder depthLimit (v ++ '\x7b'.toUInt8 :: (t ++ w)) = .ok (x, q) ↔ _ :=
    decoder_object_eq_ok_iff hl hv hm q
  simp only [read_eq_ok_iff_blank, hd]
  constructor
  · rintro ⟨q, ⟨hg, -⟩, -⟩
    exact hg
  · exact fun hg => ⟨⟨w, by simp; omega⟩, ⟨hg, rfl⟩, hw⟩

/-- Members gather a record of texts exactly if the known ones are sensible. -/
theorem gather_effects_eq_some_iff {texts : List (String × (String → σ → σ))} {blank x : σ}
    {ms : List (String × Content)} : gather [] blank (effects texts ms) = some x ↔
      Sensible (texts.map Prod.fst) ms ∧ (effects texts ms).foldl (fun y m => m.2.apply y) blank = x := by
  have hr : (∀ m ∈ effects texts ms, m.2 ≠ .refused) ↔ ∀ m ∈ known (texts.map Prod.fst) ms, m.2 ≠ .other := by
    simp only [effects, known, List.forall_mem_map, ne_eq, effectOf_eq_refused_iff, not_and, List.mem_filter,
      decide_eq_true_eq, and_imp]
  rw [gather_eq_some_iff, hr, Sensible]
  constructor
  · rintro ⟨ho, hn, -, hx⟩
    exact ⟨⟨changed_effects ho ▸ hn, ho⟩, hx⟩
  · rintro ⟨⟨hn, ho⟩, hx⟩
    exact ⟨ho, (changed_effects ho).symm ▸ hn, by simp, hx⟩

/-- An object is read as a record of texts exactly if its known members are sensible. -/
theorem read_object_eq_ok_iff (title : String) (blank : σ) (texts : List (String × (String → σ → σ))) {s : Bytes}
    {ms : List (String × Content)} (h : ObjectText s ms) {x : σ} :
    read (ofTexts title blank texts).decoder s = .ok x ↔ Sensible (texts.map Prod.fst) ms ∧
      (effects texts ms).foldl (fun y m => m.2.apply y) blank = x := by
  obtain ⟨v, t, w, hv, hm, hw, rfl⟩ := h
  have hm := members_effects title blank texts (depthLimit - 1) hm
  have hread := read_members_eq_ok_iff (ofTexts_regular title blank texts) hv hm hw (x := x)
  exact hread.trans gather_effects_eq_some_iff

/-- A part of the record shows what is put in under one name, and nothing else. -/
structure Shows (texts : List (String × (String → σ → σ))) (name : String) (get : σ → String) : Prop where
  known : name ∈ texts.map Prod.fst
  put_self {put t x} : (name, put) ∈ texts → get (put t x) = t
  put_other {key put t x} : (key, put) ∈ texts → key ≠ name → get (put t x) = get x

private theorem Shows.get_apply {texts : List (String × (String → σ → σ))} {name : String} {get : σ → String}
    (h : Shows texts name get) {key : String} {c : Content} (hc : key ∈ texts.map Prod.fst → c ≠ .other) (x : σ) :
    get ((effectOf texts key c).apply x) = if key = name then c.denotes else get x := by
  by_cases hk : key ∈ texts.map Prod.fst
  · obtain ⟨put, hp, hn, ht, -⟩ := effectOf_known hk
    have hput (t : String) : get (put t x) = if key = name then t else get x := by
      split_ifs with hname
      · exact h.put_self (hname ▸ hp)
      · exact h.put_other hp hname
    cases c with
    | null =>
      rw [hn]
      exact hput ""
    | text t =>
      rw [ht]
      exact hput t
    | other => exact absurd rfl (hc hk)
  · have hne : key ≠ name := by
      rintro rfl
      exact hk h.known
    simp only [effectOf_unknown hk, Effect.apply, hne, ↓reduceIte]

/-- The part shows what the members denote under its name, if they are sensible. -/
theorem Shows.get_foldl {texts : List (String × (String → σ → σ))} {name : String} {get : σ → String}
    (h : Shows texts name get) {ms : List (String × Content)} (hs : Sensible (texts.map Prod.fst) ms) (x : σ) :
    get ((effects texts ms).foldl (fun y m => m.2.apply y) x) = (ms.lookup name).elim (get x) Content.denotes := by
  induction ms generalizing x with
  | nil => rfl
  | cons m ms ih =>
    obtain ⟨key, c⟩ := m
    calc get ((effects texts ((key, c) :: ms)).foldl (fun y m => m.2.apply y) x)
        = (ms.lookup name).elim (get ((effectOf texts key c).apply x)) Content.denotes := ih hs.tail _
      _ = (ms.lookup name).elim (if key = name then c.denotes else get x) Content.denotes := by
        rw [h.get_apply fun hk => (hs.head hk).1]
      _ = (((key, c) :: ms).lookup name).elim (get x) Content.denotes := by
        by_cases hname : key = name
        · subst hname
          simp [lookup_eq_none h.known (hs.head h.known).2]
        · have : (name == key) = false := by simpa using Ne.symm hname
          simp [List.lookup_cons, this, hname]

end Layout
end FlowCluster.Json
