import FlowCluster.Proofs.FlowRoundTrip
import FlowCluster.Proofs.Json.Payload
import FlowCluster.Proofs.Pages
import FlowCluster.Proofs.Passwords
import Mathlib.Data.List.Nodup

/-! # Payloads of flows

The payloads of a flow are kept, though nothing looks at them, so a flow is read only if each of them can be kept as a
value. Then they change nothing: the flow has the team that it has without them, and the lookups after it go the same
way. -/

namespace FlowCluster

open Json

theorem Team.shallow : Team.layout.Shallow := Layout.ofTexts_shallow "TeamDescriptor" Team.blank Team.texts

/-- A team whose known members are sensible, however many brackets are open around it. -/
theorem Team.recordText_of_sensible (d : Nat) {t : Bytes} {ms : List (String × Content)}
    (hm : Members (fun _ => Means) true t ms) (hs : Sensible Team.keys ms) :
    Team.layout.RecordText (d + 1) ('\x7b'.toUInt8 :: t) (Team.ofMembers ms) := by
  have heffects := Layout.members_effects "TeamDescriptor" Team.blank Team.texts d hm
  have hgather : Layout.gather [] Team.blank (Layout.effects Team.texts ms) = some (Team.ofMembers ms) :=
    Layout.gather_effects_eq_some_iff.mpr ⟨hs, Team.gathered hs⟩
  exact ⟨d, rfl, .inr ⟨t, _, heffects, hgather, rfl⟩⟩

/-- An object behind white space, by the texts of the values under its keys. -/
def ObjectParts (v s : Bytes) (ms : List (String × Bytes)) : Prop :=
  Blank v ∧ ∃ t w, Members (fun _ e x => IsValue e ∧ x = e) true t ms ∧ Blank w ∧ s = v ++ '\x7b'.toUInt8 :: (t ++ w)

namespace Flow

def payloadKeys : List String := ["configuration", "pipelines", "repository", "user"]

def keys : List String := "uuid" :: "team" :: payloadKeys

/-- The members of a flow as a directory should send them, whatever its payloads are: no known key comes twice, the
uuid is a text, and the team is an object of texts. -/
structure Sent (owner : List (String × Content)) (ms : List (String × Bytes)) : Prop where
  once : ((ms.filter fun m => m.1 ∈ keys).map Prod.fst).Nodup
  uuid : ∃ e u, ("uuid", e) ∈ ms ∧ Quoted e u
  team : ∃ t, ("team", '\x7b'.toUInt8 :: t) ∈ ms ∧ Members (fun _ => Means) true t owner
  sensible : Sensible Team.keys owner

/-- A known key has one value. -/
theorem Sent.eq_of_mem {owner : List (String × Content)} {ms : List (String × Bytes)} (h : Sent owner ms) {key : String}
    (hkey : key ∈ keys) {e f : Bytes} (he : (key, e) ∈ ms) (hf : (key, f) ∈ ms) : e = f := by
  have hin {e : Bytes} (he : (key, e) ∈ ms) : (key, e) ∈ ms.filter fun m => m.1 ∈ keys :=
    List.mem_filter.mpr ⟨he, by simpa using hkey⟩
  exact (Prod.mk.inj (List.inj_on_of_nodup_map h.once (hin he) (hin hf) rfl)).2

/-- What a member does to a flow. -/
structure Does (owner : List (String × Content)) (m : String × Bytes) (n : String × Layout.Effect Flow) : Prop where
  key : n.1 = m.1
  refused : n.2 = .refused ↔ m.1 ∈ payloadKeys ∧ ¬Kept (depthLimit - 1) m.2
  none : n.2 = .none ↔ m.1 ∉ keys
  team : ∀ f, (n.2.apply f).team = if m.1 = "team" then Team.ofMembers owner else f.team

/-- The field of a payload. -/
theorem field?_payload {key : String} (h : key ∈ payloadKeys) : ∃ put : Value → Flow → Flow,
    layout.field? key = some (Field.of key Json.value put) ∧ (∀ v f, (put v f).team = f.team) := by
  simp only [payloadKeys, List.mem_cons, List.not_mem_nil, or_false] at h
  rcases h with rfl | rfl | rfl | rfl
  · exact ⟨_, rfl, fun _ _ => rfl⟩
  · exact ⟨_, rfl, fun _ _ => rfl⟩
  · exact ⟨_, rfl, fun _ _ => rfl⟩
  · exact ⟨_, rfl, fun _ _ => rfl⟩

private theorem does_payload {owner : List (String × Content)} {key : String} {e : Bytes} (h : key ∈ payloadKeys)
    (he : IsValue e) :
    ∃ effect, layout.MemberText (depthLimit - 1) key e effect ∧ Does owner (key, e) (key, effect) := by
  obtain ⟨put, hfield, hput⟩ := field?_payload h
  have hreads : Reads Apart ((Field.of key Json.value put).decoder (depthLimit - 1))
      (fun e p => ∃ v, ValueText (depthLimit - 1) e v ∧ p = put v) := Field.of_reads (value_reads _)
  have hteam : key ≠ "team" := by
    rintro rfl
    exact absurd h (by decide)
  have hknown : key ∈ keys := List.mem_cons_of_mem _ (List.mem_cons_of_mem _ h)
  by_cases hkept : Kept (depthLimit - 1) e
  · obtain ⟨v, hv⟩ := hkept
    refine ⟨.put (put v), ⟨_, hfield, (hreads.exactly_iff apart_nil).mpr ⟨v, hv, rfl⟩⟩, ?_⟩
    exact
      { key := rfl
        refused := iff_of_false (by intro h; cases h) fun h => h.2 ⟨v, hv⟩
        none := iff_of_false (by intro h; cases h) fun h => h hknown
        team := fun f => by rw [if_neg hteam]; exact hput v f }
  · refine ⟨.refused, ⟨_, hfield, ?_⟩, ?_⟩
    · rintro w r ⟨change, q⟩ hw hr hread
      simp only [Field.of] at hread
      split at hread
      · cases hread
      · next v p hv => exact hkept (he.kept hw hr ⟨p.shorter, hv⟩)
    · exact
        { key := rfl
          refused := iff_of_true rfl ⟨h, hkept⟩
          none := iff_of_false (by intro h; cases h) fun h => h hknown
          team := fun f => by rw [if_neg hteam]; rfl }

private theorem does_put {owner : List (String × Content)} {key : String} {e : Bytes} {change : Flow → Flow}
    (hkey : key ∈ keys) (hpayload : key ∉ payloadKeys)
    (hteam : ∀ f, (change f).team = if key = "team" then Team.ofMembers owner else f.team) :
    Does owner (key, e) (key, .put change) where
  key := rfl
  refused := iff_of_false (by intro h; cases h) fun h => hpayload h.1
  none := iff_of_false (by intro h; cases h) fun h => h hkey
  team := hteam

/-- Every member of a flow that is sent has its effect. -/
theorem Sent.exists_does {owner : List (String × Content)} {ms : List (String × Bytes)} (h : Sent owner ms)
    {key : String} {e : Bytes} (hm : (key, e) ∈ ms) (he : IsValue e) :
    ∃ effect, layout.MemberText (depthLimit - 1) key e effect ∧ Does owner (key, e) (key, effect) := by
  by_cases hkey : key ∈ keys
  · rcases List.mem_cons.mp hkey with rfl | hrest
    · obtain ⟨e', u, huuid, hquoted⟩ := h.uuid
      obtain rfl := h.eq_of_mem hkey hm huuid
      have hreads := Field.nullableText_reads "uuid" (fun x (f : Flow) => { f with uuid := x }) (depthLimit - 1)
      refine ⟨.put fun f => { f with uuid := u }, ⟨_, rfl, ?_⟩, does_put hkey (by decide) fun f => rfl⟩
      exact (hreads.exactly_iff trivial).mpr ⟨u, .inr hquoted, rfl⟩
    · rcases List.mem_cons.mp hrest with rfl | hpayload
      · obtain ⟨t, hteam, hmembers⟩ := h.team
        obtain rfl := h.eq_of_mem hkey hm hteam
        have htext := Team.recordText_of_sensible 125 hmembers h.sensible
        refine ⟨.put fun f => { f with team := Team.ofMembers owner }, ⟨_, rfl, ?_⟩,
          does_put hkey (by decide) fun f => rfl⟩
        exact ((team_field_reads (depthLimit - 1)).exactly_iff trivial).mpr ⟨_, .inr htext, rfl⟩
      · exact does_payload hpayload he
  · have hfield : layout.field? key = none := by
      rw [Layout.field?, List.find?_eq_none]
      intro f hf
      rw [beq_iff_eq]
      rintro rfl
      have hnames : ∀ f ∈ layout.fields, f.name ∈ keys := by
        simp [layout, keys, payloadKeys, Field.nullableText, Field.of]
      exact hkey (hnames f hf)
    refine ⟨.none, ⟨hfield, he⟩, ?_⟩
    have hpayload : key ∉ payloadKeys := fun h => hkey (List.mem_cons_of_mem _ (List.mem_cons_of_mem _ h))
    have hteam : key ≠ "team" := by
      rintro rfl
      exact hkey (by decide)
    exact
      { key := rfl
        refused := iff_of_false (by intro h; cases h) fun h => hpayload h.1
        none := iff_of_true rfl hkey
        team := fun f => by rw [if_neg hteam]; rfl }

section Effects

variable {owner : List (String × Content)} {ms : List (String × Bytes)} {es : List (String × Layout.Effect Flow)}

/-- A member is refused only if it is a payload that cannot be kept. -/
theorem forall_ne_refused_iff (h : List.Forall₂ (Does owner) ms es) :
    (∀ n ∈ es, n.2 ≠ .refused) ↔ ∀ m ∈ ms, m.1 ∈ payloadKeys → Kept (depthLimit - 1) m.2 := by
  induction h with
  | nil => simp
  | cons hm _ ih => rw [List.forall_mem_cons, List.forall_mem_cons, ih, ne_eq, hm.refused, not_and_not_right]

/-- What is not refused is put in under the known keys. -/
theorem changed_eq (h : List.Forall₂ (Does owner) ms es) (hrefused : ∀ n ∈ es, n.2 ≠ .refused) :
    Layout.changed es = (ms.filter fun m => m.1 ∈ keys).map Prod.fst := by
  induction h with
  | nil => rfl
  | @cons m n ms es hm _ ih =>
    obtain ⟨key, effect⟩ := n
    obtain ⟨hne, hrefused⟩ := List.forall_mem_cons.mp hrefused
    have hrest := ih hrefused
    have hkey : key = m.1 := hm.key
    cases effect with
    | refused => exact absurd rfl hne
    | none =>
      have hunknown : m.1 ∉ keys := hm.none.mp rfl
      rw [List.filter_cons_of_neg (by simpa using hunknown), ← hrest]
      rfl
    | put change =>
      have hknown : m.1 ∈ keys := by
        by_contra hunknown
        cases hm.none.mpr hunknown
      rw [List.filter_cons_of_pos (by simpa using hknown), List.map_cons, ← hrest, ← hkey]
      rfl

/-- The team is that of the member under its key. -/
theorem team_foldl (h : List.Forall₂ (Does owner) ms es) (f : Flow) :
    (es.foldl (fun f n => n.2.apply f) f).team =
      if "team" ∈ ms.map Prod.fst then Team.ofMembers owner else f.team := by
  induction h generalizing f with
  | nil => rfl
  | @cons m n ms es hm _ ih =>
    rw [List.foldl_cons, ih, hm.team, List.map_cons]
    by_cases hkey : m.1 = "team"
    · simp [hkey]
    · have hne : "team" ≠ m.1 := Ne.symm hkey
      simp only [hkey, hne, ↓reduceIte, List.mem_cons, false_or]

end Effects

section Decode

variable {v body : Bytes} {owner : List (String × Content)} {ms : List (String × Bytes)}

/-- What is read of a flow that is sent is what its members gather. -/
private theorem exists_gather (hbody : ObjectParts v body ms) (hsent : Sent owner ms) :
    ∃ es, List.Forall₂ (Does owner) ms es ∧ ∀ f, read Flow.decoder body = .ok f ↔ Layout.gather [] blank es = some f := by
  obtain ⟨hv, t, w, hm, hw, rfl⟩ := hbody
  have heach : ∀ m ∈ ms, ∀ e, IsValue e ∧ m.2 = e →
      ∃ n, layout.MemberText (depthLimit - 1) m.1 e n ∧ Does owner m (m.1, n) := by
    rintro ⟨key, x⟩ hmem e ⟨he, rfl⟩
    exact hsent.exists_does hmem he
  obtain ⟨es, hes, hdoes⟩ := hm.exists_forall₂ heach
  exact ⟨es, hdoes, fun f => Layout.read_members_eq_ok_iff Flow.regular hv hes hw⟩

/-- A flow that is sent as it should be is read exactly if its payloads can be kept, and with the team that it names. -/
theorem Sent.decode (hbody : ObjectParts v body ms) (hsent : Sent owner ms) (url : String) :
    ((∃ f, Body.flow.decode url body = .ok f) ↔ ∀ m ∈ ms, m.1 ∈ payloadKeys → Kept (depthLimit - 1) m.2) ∧
      ∀ f, Body.flow.decode url body = .ok f → f.team = Team.ofMembers owner := by
  obtain ⟨es, hdoes, hread⟩ := exists_gather hbody hsent
  have hdecode (f : Flow) : Body.flow.decode url body = .ok f ↔ Layout.gather [] blank es = some f :=
    Body.decode_eq_ok_iff.trans (hread f)
  have hteam : "team" ∈ ms.map Prod.fst := by
    obtain ⟨t, hmem, -⟩ := hsent.team
    exact List.mem_map.mpr ⟨_, hmem, rfl⟩
  refine ⟨?_, ?_⟩
  · rw [← forall_ne_refused_iff hdoes]
    constructor
    · rintro ⟨f, hf⟩
      exact (Layout.gather_eq_some_iff.mp ((hdecode f).mp hf)).1
    · intro hrefused
      refine ⟨_, (hdecode _).mpr (Layout.gather_eq_some_iff.mpr ⟨hrefused, ?_, ?_, rfl⟩)⟩
      · rw [changed_eq hdoes hrefused]
        exact hsent.once
      · exact fun key _ => List.not_mem_nil
  · intro f hf
    obtain ⟨-, -, -, hfold⟩ := Layout.gather_eq_some_iff.mp ((hdecode f).mp hf)
    rw [← hfold, team_foldl hdoes, if_pos hteam]

end Decode

end Flow

open FlowCluster.Flow

variable {ρ : Type}

/-- An object without white space, with the texts of its values as they are. -/
def objectOf : List (String × Bytes) → Bytes
  | [] => ['\x7b'.toUInt8, '\x7d'.toUInt8]
  | (k, e) :: ms => '\x7b'.toUInt8 :: (bytesOf (stringChars k) ++ ':'.toUInt8 :: (e ++ rest ms))
where
  rest : List (String × Bytes) → Bytes
    | [] => ['\x7d'.toUInt8]
    | (k, e) :: ms => ','.toUInt8 :: (bytesOf (stringChars k) ++ ':'.toUInt8 :: (e ++ rest ms))

theorem objectParts_objectOf {ms : List (String × Bytes)} (h : ∀ m ∈ ms, IsValue m.2) :
    ObjectParts [] (objectOf ms) ms := by
  have hkey (k : String) (s : Bytes) : bytesOf (stringChars k) ++ s =
      '"'.toUInt8 :: (bytesOf (k.toList.flatMap escapeChar) ++ '"'.toUInt8 :: s) := by
    have hchars := bytesOf_stringChars k []
    rw [List.append_nil] at hchars
    rw [hchars, List.cons_append, List.append_assoc]
    rfl
  have hrest {ms : List (String × Bytes)} (h : ∀ m ∈ ms, IsValue m.2) :
      Members (fun _ e x => IsValue e ∧ x = e) false (objectOf.rest ms) ms := by
    induction ms with
    | nil => exact .close blank_nil
    | cons m ms ih =>
      obtain ⟨hm, hms⟩ := List.forall_mem_cons.mp h
      rw [objectOf.rest, hkey]
      exact .member (.next blank_nil blank_nil) (spells_text m.1) blank_nil blank_nil ⟨hm, rfl⟩ (ih hms)
  cases ms with
  | nil => exact ⟨blank_nil, _, [], .close blank_nil, blank_nil, rfl⟩
  | cons m ms =>
    obtain ⟨hm, hms⟩ := List.forall_mem_cons.mp h
    have hmember := Members.member (.first blank_nil) (spells_text m.1) blank_nil blank_nil
      (R := fun _ e x => IsValue e ∧ x = e) ⟨hm, rfl⟩ (hrest hms)
    refine ⟨blank_nil, _, [], hmember, blank_nil, ?_⟩
    rw [objectOf, hkey, List.append_nil]
    rfl

end FlowCluster
