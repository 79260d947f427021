import FlowCluster.Proofs.Json.Passage
import FlowCluster.Proofs.Json.Payload

/-! # Values by position and by name

What a field makes of a well-formed value depends on the value alone: a change of the record, or nothing. A record that
is listed is changed by one field after the other, and so is a record whose first fields are given by name in the same
order, so both are read as the same record. Fields that no value comes to keep what they have. -/

namespace FlowCluster.Json

variable {σ α β : Type}

/-- A text that lists values, each up to what comes between them. -/
def Lists (es : List Bytes) (e : Bytes) : Prop :=
  ∃ t, Items (fun e x => IsValue e ∧ x = e) true t es ∧ e = '['.toUInt8 :: t

/-- A text that gives values to the first of some names, in their order. -/
def Gives (names : List String) (es : List Bytes) (e : Bytes) : Prop :=
  ∃ t, Members (fun _ e x => IsValue e ∧ x = e) true t (names.zip es) ∧ e = '\x7b'.toUInt8 :: t

/-- A text of the first fields of a record, by position or by name. -/
structure Lays (names : List String) (es : List Bytes) (e : Bytes) : Prop where
  enough : es.length ≤ names.length
  form : Lists es e ∨ Gives names es e

/-- A text of some kind with white space around it. -/
def InBlanks (R : Bytes → Prop) (s : Bytes) : Prop := ∃ v e w, Blank v ∧ R e ∧ Blank w ∧ s = v ++ (e ++ w)

section Texts

variable {names : List String} {es : List Bytes} {e : Bytes}

theorem Lists.values (h : Lists es e) : ∀ x ∈ es, IsValue x := by
  obtain ⟨t, ht, -⟩ := h
  intro x hx
  obtain ⟨_, he, rfl⟩ := ht.forall_mem x hx
  exact he

theorem Lays.values (h : Lays names es e) : ∀ x ∈ es, IsValue x := by
  obtain ⟨hle, hlists | ⟨t, ht, -⟩⟩ := h
  · exact hlists.values
  · intro x hx
    rw [← List.map_snd_zip hle] at hx
    obtain ⟨m, hm, rfl⟩ := List.mem_map.mp hx
    obtain ⟨_, he, heq⟩ := ht.forall_mem m hm
    rwa [heq]

/-- Both forms begin with a bracket. -/
theorem Lays.exists_opening (h : Lays names es e) : ∃ (k : Bracket) (t : Bytes), e = k.opening :: t := by
  obtain ⟨-, ⟨t, -, rfl⟩ | ⟨t, -, rfl⟩⟩ := h
  · exact ⟨.list, t, rfl⟩
  · exact ⟨.object, t, rfl⟩

end Texts

/-- What a field makes of a value, whatever stands around it: a change of the record, or nothing. -/
def Field.Makes (f : Field σ) (d : Nat) (e : Bytes) : Option (σ → σ) → Prop
  | some change => ∀ w r, Blank w → Apart r → Takes (f.decoder d) (w ++ (e ++ r)) change r
  | none => ∀ w r out, Blank w → Apart r → f.decoder d (w ++ (e ++ r)) ≠ .ok out

/-- What the first fields make of values, one by one. -/
inductive Made (d : Nat) : List (Field σ) → List Bytes → List (Option (σ → σ)) → Prop
  | done {fields : List (Field σ)} : Made d fields [] []
  | next {f : Field σ} {fields : List (Field σ)} {e : Bytes} {es : List Bytes} {c : Option (σ → σ)}
      {cs : List (Option (σ → σ))} : f.Makes d e c → Made d fields es cs → Made d (f :: fields) (e :: es) (c :: cs)

/-- A record after changes, if nothing is missing among them. -/
def changedBy (record : σ) : List (Option (σ → σ)) → Option σ
  | [] => some record
  | none :: _ => none
  | some change :: cs => changedBy (change record) cs

section Makes

variable {f : Field σ} {d : Nat} {e : Bytes}

theorem Local.exists_makes (h : Local (f.decoder d) e) : ∃ c, f.Makes d e c := by
  rcases h with ⟨change, hx⟩ | ⟨fault, hf⟩
  · exact ⟨some change, hx⟩
  · refine ⟨none, fun w r out hw hr hout => ?_⟩
    cases (hf w r hw hr).symm.trans hout

/-- A payload that is kept is put in, and no other. -/
theorem Field.exists_makes_value (name : String) (put : Value → σ → σ) (d : Nat) (he : IsValue e) :
    ∃ c, (Field.of name value put).Makes d e c := by
  have hreads : Reads Apart ((Field.of name value put).decoder d) _ := Field.of_reads (value_reads d)
  by_cases hkept : Kept d e
  · obtain ⟨v, hv⟩ := hkept
    exact ⟨some (put v), fun w r hw hr => hreads.complete hw ⟨v, hv, rfl⟩ hr⟩
  · refine ⟨none, fun w r out hw hr hout => hkept ?_⟩
    simp only [Field.of] at hout
    split at hout
    · cases hout
    · next v q hv => exact he.kept hw hr ⟨q.shorter, hv⟩

theorem Field.Makes.exactly {change : σ → σ} (h : f.Makes d e (some change)) (he : IsValue e) :
    Exactly (f.decoder d) e change := by
  have htakes := h [] [] blank_nil apart_nil
  simp only [List.append_nil, List.nil_append] at htakes
  exact ⟨he.starts, htakes⟩

/-- A field that changes nothing of what `get` shows. -/
def Field.Keeps (f : Field σ) (get : σ → β) : Prop :=
  ∀ d e change, f.Makes d e (some change) → ∀ x, get (change x) = get x

theorem Field.keeps_of {name : String} {decoder : Decoder α} {put : α → σ → σ} {get : σ → β}
    (h : ∀ v x, get (put v x) = get x) : (Field.of name decoder put).Keeps get := by
  intro d e change hmakes x
  obtain ⟨_, htakes⟩ := hmakes [] [] blank_nil apart_nil
  simp only [Field.of] at htakes
  split at htakes
  · cases htakes
  · next v q hv =>
    obtain ⟨rfl, -⟩ := Prod.mk.inj (Except.ok.inj htakes)
    exact h v x

end Makes

section Made

variable {d : Nat} {fields : List (Field σ)} {es : List Bytes} {cs : List (Option (σ → σ))} {first : Bool} {t : Bytes}

theorem exists_made (hf : ∀ f ∈ fields, ∀ e, IsValue e → ∃ c, f.Makes d e c) (hes : ∀ e ∈ es, IsValue e)
    (hle : es.length ≤ fields.length) : ∃ cs, Made d fields es cs := by
  induction es generalizing fields with
  | nil => exact ⟨[], .done⟩
  | cons e es ih =>
    cases fields with
    | nil => simp at hle
    | cons f fields =>
      obtain ⟨hfirst, hrest⟩ := List.forall_mem_cons.mp hf
      obtain ⟨he, hes⟩ := List.forall_mem_cons.mp hes
      obtain ⟨c, hc⟩ := hfirst e he
      obtain ⟨cs, hcs⟩ := ih hrest hes (Nat.le_of_succ_le_succ hle)
      exact ⟨c :: cs, .next hc hcs⟩

/-- What is made of values does not depend on the depth if no field does. -/
theorem Made.depth {d' : Nat} (hm : Made d fields es cs) (hd : ∀ f ∈ fields, f.decoder d = f.decoder d') :
    Made d' fields es cs := by
  induction hm with
  | done => exact .done
  | @next f fields e es c cs hc _ ih =>
    obtain ⟨hfirst, hrest⟩ := List.forall_mem_cons.mp hd
    refine .next ?_ (ih hrest)
    cases c with
    | none => rwa [Field.Makes, hfirst] at hc
    | some change => rwa [Field.Makes, hfirst] at hc

theorem Made.length_eq (hm : Made d fields es cs) : cs.length = es.length := by
  induction hm with
  | done => rfl
  | next _ _ ih => rw [List.length_cons, List.length_cons, ih]

/-- What is shown of a record by none of the fields that values come to is what it was before. -/
theorem Made.keeps {get : σ → β} {record x : σ} (hm : Made d fields es cs) (hkeeps : ∀ f ∈ fields, f.Keeps get)
    (hx : changedBy record cs = some x) : get x = get record := by
  induction hm generalizing record with
  | done => rw [Option.some.inj hx]
  | @next f fields e es c cs hc _ ih =>
    obtain ⟨hfirst, hrest⟩ := List.forall_mem_cons.mp hkeeps
    cases c with
    | none => cases hx
    | some change => rw [ih hrest hx, hfirst d e change hc]

/-- No field changes what is shown of a field after it. -/
def Guarded : List (Field σ) → List (σ → β) → Prop
  | f :: fields, _ :: gets => (∀ get ∈ gets, f.Keeps get) ∧ Guarded fields gets
  | _, _ => True

/-- Fields that no value comes to are left as they were. -/
theorem Made.rest {gets : List (σ → β)} {record x : σ} (hm : Made d fields es cs) (hg : Guarded fields gets)
    (hx : changedBy record cs = some x) : ∀ get ∈ gets.drop es.length, get x = get record := by
  induction hm generalizing record gets with
  | done =>
    intro get _
    rw [Option.some.inj hx]
  | @next f fields e es c cs hc _ ih =>
    cases gets with
    | nil =>
      intro get hget
      cases hget
    | cons g gets =>
      obtain ⟨hfirst, hrest⟩ := hg
      cases c with
      | none => cases hx
      | some change =>
        intro get hget
        rw [ih hrest hx get hget, hfirst get (List.mem_of_mem_drop hget) d e change hc]

section Step

variable {f : Field σ} {g e r : Bytes} {origin : Bytes} {record : σ}

/-- A value that its field takes leads to the fields after it. -/
private theorem positional_taken {change : σ → σ} (hg : Gap first g) (he : IsValue e) (hc : f.Makes d e (some change))
    (hr : Apart r) (h : (g ++ (e ++ r)).length ≤ origin.length) :
    ∃ h', Layout.positional d origin (f :: fields) record first (g ++ (e ++ r)) h =
      Layout.positional d origin fields (change record) false r h' := by
  obtain ⟨_, hturn⟩ := listTurn_item_complete hg (he.starts.append r)
  obtain ⟨_, hread⟩ : Takes (f.decoder d) (e ++ r) change r := hc [] r blank_nil hr
  rw [Layout.positional, hturn]
  simp only [hread]
  exact ⟨by simp at h; omega, trivial⟩

private theorem positional_refused (hg : Gap first g) (he : IsValue e) (hc : f.Makes d e none) (hr : Apart r)
    (h : (g ++ (e ++ r)).length ≤ origin.length) (out : σ × Rest origin) :
    Layout.positional d origin (f :: fields) record first (g ++ (e ++ r)) h ≠ .ok out := by
  obtain ⟨_, hturn⟩ := listTurn_item_complete hg (he.starts.append r)
  rw [Layout.positional, hturn]
  dsimp only
  split
  · simp
  · next hout => exact absurd hout (hc [] r _ blank_nil hr)

end Step

/-- Values by position change the record one after the other, if each is taken. -/
theorem Made.positional (hm : Made d fields es cs) (ht : Items (fun e x => IsValue e ∧ x = e) first t es)
    {origin r : Bytes} {record x : σ} (h : (t ++ r).length ≤ origin.length) (q : Rest origin) :
    Layout.positional d origin fields record first (t ++ r) h = .ok (x, q) ↔
      changedBy record cs = some x ∧ q.bytes = r := by
  induction hm generalizing first t record with
  | @done fields =>
    obtain ⟨q, hq⟩ := q
    cases ht with
    | @close _ w hw =>
      simp only [List.append_assoc, List.singleton_append] at h ⊢
      cases fields with
      | nil =>
        obtain ⟨h', hend⟩ := listEnd_complete hw r
        rw [Layout.positional, hend]
        simp [changedBy, Rest.widen, eq_comm]
      | cons f fields =>
        obtain ⟨h', hturn⟩ := listTurn_closed_complete first hw r
        rw [Layout.positional, hturn]
        simp [changedBy, Rest.widen, eq_comm]
  | @next f fields e es c cs hc _ ih =>
    cases ht with
    | item hg he ht =>
      obtain ⟨he, rfl⟩ := he
      simp only [List.append_assoc] at h ⊢
      cases c with
      | none => simp [changedBy, positional_refused hg he hc (ht.apart r)]
      | some change =>
        obtain ⟨h', hstep⟩ := positional_taken hg he hc (ht.apart r) h
        rw [hstep, changedBy]
        exact ih ht h'

/-- More values than fields are refused. -/
theorem positional_excess (hf : ∀ f ∈ fields, ∀ e, IsValue e → ∃ c, f.Makes d e c)
    (ht : Items (fun e x => IsValue e ∧ x = e) first t es) (hlt : fields.length < es.length) {origin : Bytes}
    {record : σ} (r : Bytes) (h : (t ++ r).length ≤ origin.length) (out : σ × Rest origin) :
    Layout.positional d origin fields record first (t ++ r) h ≠ .ok out := by
  induction fields generalizing first t es record with
  | nil =>
    cases ht with
    | close => simp at hlt
    | item hg he ht =>
      obtain ⟨fault, hend⟩ := listEnd_item hg he.1
      simp only [List.append_assoc] at h ⊢
      rw [Layout.positional, hend]
      simp
  | cons f fields ih =>
    obtain ⟨hfirst, hrest⟩ := List.forall_mem_cons.mp hf
    cases ht with
    | close => simp at hlt
    | item hg he ht =>
      obtain ⟨he, rfl⟩ := he
      simp only [List.append_assoc] at h ⊢
      obtain ⟨c, hc⟩ := hfirst _ he
      cases c with
      | none => exact positional_refused hg he hc (ht.apart r) h out
      | some change =>
        obtain ⟨h', hstep⟩ := positional_taken hg he hc (ht.apart r) h
        rw [hstep]
        exact ih hrest ht (Nat.lt_of_succ_lt_succ hlt) h'

end Made

namespace Layout

variable {l : Layout σ} {d : Nat} {es : List Bytes} {cs : List (Option (σ → σ))}

/-- What a field that is found under a name does with what it makes of a value. -/
def effectOfChange : Option (σ → σ) → Effect σ
  | some change => .put change
  | none => .refused

def names (l : Layout σ) : List String := l.fields.map Field.name

/-- No two fields have one name. -/
def Distinct (l : Layout σ) : Prop := l.names.Nodup

instance (l : Layout σ) : Decidable l.Distinct := inferInstanceAs (Decidable l.names.Nodup)

/-- Each field is found under its name. -/
theorem Distinct.field?_eq (h : l.Distinct) {f : Field σ} (hf : f ∈ l.fields) : l.field? f.name = some f := by
  rw [Distinct, names] at h
  rw [field?]
  generalize l.fields = fields at h hf
  induction fields with
  | nil => cases hf
  | cons g fields ih =>
    rw [List.map_cons, List.nodup_cons] at h
    rcases List.mem_cons.mp hf with rfl | hf
    · exact List.find?_cons_of_pos (by simp)
    · have hne : g.name ≠ f.name := fun he => h.1 (he ▸ List.mem_map_of_mem hf)
      rw [List.find?_cons_of_neg (by simpa using hne)]
      exact ih h.2 hf

/-- Values under the names of their fields have the effects of what these make of them. -/
private theorem members_made {fields : List (Field σ)} {first : Bool} {t : Bytes} (hm : Made d fields es cs)
    (hfields : ∀ f ∈ fields, l.field? f.name = some f)
    (ht : Members (fun _ e x => IsValue e ∧ x = e) first t ((fields.map Field.name).zip es)) :
    Members (l.MemberText d) first t ((fields.map Field.name).zip (cs.map effectOfChange)) := by
  induction hm generalizing first t with
  | done =>
    rw [List.zip_nil_right] at ht
    rw [List.map_nil, List.zip_nil_right]
    cases ht with
    | close hw => exact .close hw
  | @next f fields e es c cs hc _ ih =>
    obtain ⟨hfirst, hrest⟩ := List.forall_mem_cons.mp hfields
    rw [List.map_cons, List.zip_cons_cons] at ht
    rw [List.map_cons, List.map_cons, List.zip_cons_cons]
    cases ht with
    | member hg hk hu hw he ht =>
      obtain ⟨he, rfl⟩ := he
      refine .member hg hk hu hw ?_ (ih hrest ht)
      cases c with
      | none => exact ⟨f, hfirst, hc⟩
      | some change => exact ⟨f, hfirst, hc.exactly he⟩

/-- Under names that are apart, changes are gathered in their order. -/
private theorem gather_zip {keys taken : List String} {record : σ} (hnodup : keys.Nodup)
    (htaken : ∀ key ∈ keys, key ∉ taken) (hle : cs.length ≤ keys.length) :
    gather taken record (keys.zip (cs.map effectOfChange)) = changedBy record cs := by
  induction cs generalizing keys taken record with
  | nil =>
    rw [List.map_nil, List.zip_nil_right]
    rfl
  | cons c cs ih =>
    cases keys with
    | nil => simp at hle
    | cons key keys =>
      obtain ⟨hnot, hnodup⟩ := List.nodup_cons.mp hnodup
      obtain ⟨hkey, hkeys⟩ := List.forall_mem_cons.mp htaken
      rw [List.map_cons, List.zip_cons_cons]
      cases c with
      | none => rfl
      | some change =>
        rw [effectOfChange, gather, if_neg hkey, changedBy]
        refine ih hnodup ?_ (Nat.le_of_succ_le_succ hle)
        intro k hk hmem
        rcases List.mem_cons.mp hmem with rfl | hmem
        · exact hnot hk
        · exact hkeys k hk hmem

section Decoder

variable {e w r : Bytes} {x : σ}

/-- After its opening bracket, a record is read by what is made inside it. -/
private theorem decoder_eq_ok_iff {k : Bracket} {t : Bytes} (hw : Blank w) (ht : t ≠ [])
    (h : ∀ q : Rest (t ++ r), l.inside d k (t ++ r) = .ok (x, q) ↔ changedBy l.blank cs = some x ∧ q.bytes = r)
    (q : Rest (w ++ k.opening :: (t ++ r))) :
    l.decoder (d + 1) (w ++ k.opening :: (t ++ r)) = .ok (x, q) ↔ changedBy l.blank cs = some x ∧ q.bytes = r := by
  obtain ⟨hle, hopening⟩ := decoder_opening (l := l) (d := d) hw (t ++ r)
  rw [hopening]
  constructor
  · intro hread
    cases hinside : l.inside d k (t ++ r) with
    | error f =>
      rw [hinside] at hread
      cases hread
    | ok p =>
      obtain ⟨y, q'⟩ := p
      rw [hinside] at hread
      cases hread
      exact (h q').mp hinside
  · rintro ⟨hx, hq⟩
    have hlt : r.length < (t ++ r).length := by
      have hpos := List.length_pos_of_ne_nil ht
      rw [List.length_append]
      omega
    rw [(h ⟨r, hlt⟩).mpr ⟨hx, rfl⟩]
    obtain ⟨q, hshorter⟩ := q
    have hq : r = q := hq.symm
    subst hq
    rfl

/-- A record whose first fields are laid out, by position or by name, is read as what these make of their values. -/
theorem decoder_lays (hl : l.Regular) (hd : l.Distinct) (hm : Made d l.fields es cs) (he : Lays l.names es e)
    (hw : Blank w) (q : Rest (w ++ (e ++ r))) :
    l.decoder (d + 1) (w ++ (e ++ r)) = .ok (x, q) ↔ changedBy l.blank cs = some x ∧ q.bytes = r := by
  obtain ⟨hle, ⟨t, ht, rfl⟩ | ⟨t, ht, rfl⟩⟩ := he
  · refine decoder_eq_ok_iff (k := .list) hw ?_ (fun q => hm.positional ht (Nat.le_refl _) q) q
    obtain ⟨a, c, rfl, -⟩ := ht.closed
    simp
  · have hmembers := members_made hm (fun f hf => hd.field?_eq hf) ht
    have hgather : gather [] l.blank _ = changedBy l.blank cs :=
      gather_zip hd (fun _ _ => List.not_mem_nil) (hm.length_eq ▸ hle)
    rw [← hgather]
    exact decoder_object_eq_ok_iff hl hw hmembers q

/-- A record that lists more values than it has fields is not read. -/
theorem decoder_excess (hf : ∀ f ∈ l.fields, ∀ e, IsValue e → ∃ c, f.Makes d e c) (he : Lists es e)
    (hlt : l.names.length < es.length) (hw : Blank w) (out : σ × Rest (w ++ (e ++ r))) :
    l.decoder (d + 1) (w ++ (e ++ r)) ≠ .ok out := by
  obtain ⟨t, ht, rfl⟩ := he
  obtain ⟨_, hopening⟩ := decoder_opening (k := .list) (l := l) (d := d) hw (t ++ r)
  rw [names, List.length_map] at hlt
  intro hread
  have hmap : (l.inside d .list (t ++ r)).map _ = .ok out := hopening.symm.trans hread
  cases hinside : l.inside d .list (t ++ r) with
  | error f =>
    rw [hinside] at hmap
    cases hmap
  | ok p => exact positional_excess hf ht hlt r (Nat.le_refl _) p hinside

end Decoder

section Nested

variable {name : String} {put : σ → α → α} {e : Bytes} {c : Option σ}

/-- What comes to a field from a record in brackets, null or not. -/
private theorem makes_record {k : Bracket} {t : Bytes}
    (h : ∀ r x (q : Rest (k.opening :: (t ++ r))),
      l.decoder d (k.opening :: (t ++ r)) = .ok (x, q) ↔ c = some x ∧ q.bytes = r) :
    (Field.of name (orNull l.blank l.decoder) put).Makes d (k.opening :: t) (c.map put) := by
  have hnull : k.opening ≠ 'n'.toUInt8 := by cases k <;> decide
  cases c with
  | none =>
    intro w r out hw _ hout
    simp only [Field.of, orNull, List.cons_append, content_append hw (isBlank_opening k), hnull, ↓reduceIte] at hout
    cases hread : l.decoder d (k.opening :: (t ++ r)) with
    | error f =>
      rw [hread] at hout
      cases hout
    | ok p =>
      obtain ⟨hc, -⟩ := (h r p.1 p.2).mp hread
      cases hc
  | some x =>
    intro w r hw _
    have hlt : r.length < (k.opening :: (t ++ r)).length := by
      rw [List.length_cons, List.length_append]
      omega
    have hread := (h r x ⟨r, hlt⟩).mpr ⟨rfl, rfl⟩
    rw [List.cons_append]
    refine ⟨by simp; omega, ?_⟩
    simp only [Field.of, orNull, content_append hw (isBlank_opening k), hnull, ↓reduceIte, hread, Rest.widen]

/-- A record that is laid out comes to a field as what its own fields make of it. -/
theorem makes_lays (hl : l.Regular) (hd : l.Distinct) (hm : Made d l.fields es cs) (he : Lays l.names es e) :
    (Field.of name (orNull l.blank l.decoder) put).Makes (d + 1) e ((changedBy l.blank cs).map put) := by
  obtain ⟨k, t, rfl⟩ := he.exists_opening
  exact makes_record fun r _ q => decoder_lays (r := r) hl hd hm he blank_nil q

theorem makes_excess (hf : ∀ f ∈ l.fields, ∀ e, IsValue e → ∃ c, f.Makes d e c) (he : Lists es e)
    (hlt : l.names.length < es.length) : (Field.of name (orNull l.blank l.decoder) put).Makes (d + 1) e none := by
  obtain ⟨t, ht, rfl⟩ := id he
  refine makes_record (k := .list) (c := none) fun r x q => ?_
  refine iff_of_false (decoder_excess (r := r) hf he hlt blank_nil (x, q)) fun h => ?_
  cases h.1

end Nested

/-- What a layout needs for its records to mean the same by position and by name: fields of different names, each read from
texts of its own, and each with an opinion of every value. Of what is shown of a record, each field changes nothing
that is shown of a later one. -/
structure Orderly (l : Layout σ) (gets : List (σ → β)) : Prop where
  regular : l.Regular
  distinct : l.Distinct
  makes : ∀ f ∈ l.fields, ∀ d e, IsValue e → ∃ c, f.Makes d e c
  guarded : Guarded l.fields gets

section Read

variable {gets : List (σ → β)} {s s' : Bytes} {x : σ}

theorem Orderly.exists_made (ho : l.Orderly gets) (d : Nat) (hes : ∀ e ∈ es, IsValue e)
    (hle : es.length ≤ l.names.length) : ∃ cs, Made d l.fields es cs :=
  Json.exists_made (fun f hf => ho.makes f hf d) hes (hle.trans (List.length_map _).le)

/-- A document of the first fields of a record is read as what these make of their values. -/
theorem Orderly.read_eq_ok_iff (ho : l.Orderly gets) (hm : Made (depthLimit - 1) l.fields es cs)
    (hs : InBlanks (Lays l.names es) s) : read l.decoder s = .ok x ↔ changedBy l.blank cs = some x := by
  obtain ⟨v, e, w, hv, he, hw, rfl⟩ := hs
  have hread (q : Rest (v ++ (e ++ w))) : l.decoder depthLimit (v ++ (e ++ w)) = .ok (x, q) ↔ _ :=
    decoder_lays ho.regular ho.distinct hm he hv q
  simp only [read_eq_ok_iff_blank, hread]
  constructor
  · rintro ⟨q, ⟨hx, -⟩, -⟩
    exact hx
  · intro hx
    have hpos : 0 < e.length := by
      obtain ⟨k, t, rfl⟩ := he.exists_opening
      simp
    exact ⟨⟨w, by simp; omega⟩, ⟨hx, rfl⟩, hw⟩

/-- The two forms of a record are read alike. -/
theorem Orderly.read_alike (ho : l.Orderly gets) (hs : InBlanks (Lays l.names es) s)
    (hs' : InBlanks (Lays l.names es) s') : read l.decoder s = .ok x ↔ read l.decoder s' = .ok x := by
  obtain ⟨-, e, -, -, he, -⟩ := id hs
  obtain ⟨cs, hcs⟩ := ho.exists_made (depthLimit - 1) he.values he.enough
  rw [ho.read_eq_ok_iff hcs hs, ho.read_eq_ok_iff hcs hs']

/-- Fields that are not written are as in the blank record. -/
theorem Orderly.read_rest (ho : l.Orderly gets) (hs : InBlanks (Lays l.names es) s) (hx : read l.decoder s = .ok x) :
    (gets.map fun get => get x).drop es.length = (gets.map fun get => get l.blank).drop es.length := by
  obtain ⟨-, e, -, -, he, -⟩ := id hs
  obtain ⟨cs, hcs⟩ := ho.exists_made (depthLimit - 1) he.values he.enough
  rw [← List.map_drop, ← List.map_drop]
  exact List.map_congr_left (hcs.rest ho.guarded ((ho.read_eq_ok_iff hcs hs).mp hx))

theorem Orderly.read_excess (ho : l.Orderly gets) (hs : InBlanks (Lists es) s) (hlt : l.names.length < es.length) :
    read l.decoder s ≠ .ok x := by
  obtain ⟨v, e, w, hv, he, hw, rfl⟩ := hs
  intro hx
  obtain ⟨q, hread, -⟩ := read_eq_ok_iff_blank.mp hx
  exact decoder_excess (fun f hf => ho.makes f hf (depthLimit - 1)) he hlt hv _ hread

end Read

end Layout

end FlowCluster.Json
