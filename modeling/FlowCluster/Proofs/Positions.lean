import FlowCluster.Proofs.Extent
import FlowCluster.Proofs.Json.Positional
import FlowCluster.Proofs.Payloads
import FlowCluster.Proofs.Refusals

/-! # Records by position and by name

A cluster, a team or a flow may be sent as an object or as a list. Both are read by the same fields, one after the other,
so a list of values is accepted where an object of the same values under the first names is accepted, and it is taken
for the same record. Of a list that is too long nothing is read. A team keeps that freedom inside a flow. -/

namespace FlowCluster

open Json

/-- The members of an object. -/
def Json.Value.members : Value → List (String × Value)
  | .object ms => ms
  | _ => []

/-- A list without white space, with the texts of its values as they are. -/
def listOf : List Bytes → Bytes
  | [] => ['['.toUInt8, ']'.toUInt8]
  | e :: es => '['.toUInt8 :: (e ++ rest es)
where
  rest : List Bytes → Bytes
    | [] => [']'.toUInt8]
    | e :: es => ','.toUInt8 :: (e ++ rest es)

theorem lists_listOf {es : List Bytes} (h : ∀ e ∈ es, IsValue e) : Lists es (listOf es) := by
  have hrest {es : List Bytes} (h : ∀ e ∈ es, IsValue e) :
      Items (fun e x => IsValue e ∧ x = e) false (listOf.rest es) es := by
    induction es with
    | nil => exact .close blank_nil
    | cons e es ih =>
      obtain ⟨he, hes⟩ := List.forall_mem_cons.mp h
      exact .item (.next blank_nil blank_nil) ⟨he, rfl⟩ (ih hes)
  cases es with
  | nil => exact ⟨_, .close blank_nil, rfl⟩
  | cons e es =>
    obtain ⟨he, hes⟩ := List.forall_mem_cons.mp h
    exact ⟨_, .item (.first blank_nil) ⟨he, rfl⟩ (hrest hes), rfl⟩

theorem gives_objectOf (names : List String) {es : List Bytes} (h : ∀ e ∈ es, IsValue e) :
    InBlanks (Gives names es) (objectOf (names.zip es)) := by
  have hvalues : ∀ m ∈ names.zip es, IsValue m.2 := fun m hm => h m.2 (List.of_mem_zip hm).2
  obtain ⟨hv, t, w, ht, hw, hobject⟩ := objectParts_objectOf hvalues
  exact ⟨[], _, w, hv, ⟨t, ht, rfl⟩, hw, hobject⟩

namespace Body

/-- The forms of a record mean the same: the first fields by position are what they are by name. -/
structure Positional (k : Body) (names : List String) (toValue : k.Record → Value) (blank : k.Record)
    (url : String) : Prop where
  /-- Values that are few enough are written in both forms. -/
  written : ∀ es, (∀ e ∈ es, IsValue e) → es.length ≤ names.length →
    InBlanks (Lays names es) (listOf es) ∧ InBlanks (Lays names es) (objectOf (names.zip es))
  /-- Whatever form they are in, they are the same record, or none. -/
  alike : ∀ es body body', InBlanks (Lays names es) body → InBlanks (Lays names es) body' →
    ∀ x, k.decode url body = .ok x ↔ k.decode url body' = .ok x
  /-- The fields that are not written are blank. -/
  remaining : ∀ es body x, InBlanks (Lays names es) body → k.decode url body = .ok x →
    (toValue x).members.drop es.length = (toValue blank).members.drop es.length
  /-- More values than there are fields are no record. -/
  excess : ∀ es body, InBlanks (Lists es) body → names.length < es.length →
    ∃ r, k.decode url body = .error (.decode url r)

theorem positional_of_orderly {k : Body} {l : Layout k.Record} {shown : List (k.Record → String × Value)}
    {toValue : k.Record → Value} (ho : l.Orderly shown) (hdecoder : k.decoder = l.decoder)
    (hshown : ∀ x, (toValue x).members = shown.map fun get => get x) (url : String) :
    k.Positional l.names toValue l.blank url where
  written := by
    intro es hes hle
    obtain ⟨v, e, w, hv, he, hw, hobject⟩ := gives_objectOf l.names hes
    exact ⟨⟨[], _, [], blank_nil, ⟨hle, .inl (lists_listOf hes)⟩, blank_nil, by simp⟩,
      ⟨v, e, w, hv, ⟨hle, .inr he⟩, hw, hobject⟩⟩
  alike := by
    intro es body body' hbody hbody' x
    rw [decode_eq_ok_iff, decode_eq_ok_iff, hdecoder]
    exact ho.read_alike hbody hbody'
  remaining := by
    intro es body x hbody hx
    rw [decode_eq_ok_iff, hdecoder] at hx
    rw [hshown, hshown]
    exact ho.read_rest hbody hx
  excess := by
    intro es body hbody hlt
    refine decode_eq_error fun x hx => ?_
    rw [decode_eq_ok_iff, hdecoder] at hx
    exact ho.read_excess hbody hlt hx

end Body

namespace Cluster

/-- What is written of a cluster, field by field. -/
def shown : List (Cluster → String × Value) := [
  fun c => ("identifier", .text c.identifier),
  fun c => ("address", .text c.address),
  fun c => ("version", .text c.version),
  fun c => ("username", .text c.username),
  fun c => ("password", .text c.password),
  fun c => ("type", .text c.kind)]

theorem orderly : layout.Orderly shown where
  regular := regular
  distinct := by decide
  makes := fun f hf d _ he => (hasLocalFields f hf d _ he).exists_makes
  guarded := by
    simp only [layout, shown, Guarded, List.forall_mem_cons, List.not_mem_nil, false_imp_iff, implies_true, and_true]
    repeat' constructor
    all_goals exact Field.keeps_of fun _ _ => rfl

end Cluster

namespace Team

/-- What is written of a team, field by field. -/
def shown : List (Team → String × Value) := [
  fun t => ("bucket_uuid", .text t.bucket),
  fun t => ("slug", .text t.slug),
  fun t => ("name", .text t.name)]

theorem hasLocalFields : layout.HasLocalFields := Layout.ofTexts_hasLocalFields "TeamDescriptor" blank texts

theorem orderly : layout.Orderly shown where
  regular := regular
  distinct := by decide
  makes := fun f hf d _ he => (hasLocalFields f hf d _ he).exists_makes
  guarded := by
    simp only [layout, shown, Guarded, List.forall_mem_cons, List.not_mem_nil, false_imp_iff, implies_true, and_true]
    repeat' constructor
    all_goals exact Field.keeps_of fun _ _ => rfl

end Team

namespace Flow

/-- What is written of a flow, field by field. -/
def shown : List (Flow → String × Value) := [
  fun f => ("uuid", .text f.uuid),
  fun f => ("team", f.team.toValue),
  fun f => ("configuration", f.configuration),
  fun f => ("pipelines", f.pipelines),
  fun f => ("repository", f.repository),
  fun f => ("user", f.user)]

/-- A payload is put in if it can be kept, and a text or a team if it is one or null. -/
private theorem makes (f : Json.Field Flow) (hf : f ∈ layout.fields) (d : Nat) (e : Bytes) (he : IsValue e) :
    ∃ c, f.Makes d e c := by
  simp only [layout, List.mem_cons, List.not_mem_nil, or_false] at hf
  rcases hf with rfl | rfl | rfl | rfl | rfl | rfl
  · exact (Field.nullableText_local _ _ d he).exists_makes
  · have hteam : Local (Team.decoder d) e := Layout.decoder_local Team.hasLocalFields d he
    exact (Field.of_local (orNull_local he hteam)).exists_makes
  all_goals exact Field.exists_makes_value _ _ d he

theorem orderly : layout.Orderly shown where
  regular := regular
  distinct := by decide
  makes := makes
  guarded := by
    simp only [layout, shown, Guarded, List.forall_mem_cons, List.not_mem_nil, false_imp_iff, implies_true, and_true]
    repeat' constructor
    all_goals exact Field.keeps_of fun _ _ => rfl

/-- The field that says which team a flow belongs to. -/
def owner : Json.Field Flow := .of "team" (orNull .blank Team.decoder) fun x f => { f with team := x }

section Owner

variable {u e : Bytes} {us rest : List Bytes} {body : Bytes}

/-- What the fields of a flow make of values, whatever the team among them is. -/
private theorem exists_made (hbody : InBlanks (Lays keys (u :: e :: rest)) body) :
    ∃ first cs, Made (depthLimit - 1) (layout.fields.drop 2) rest cs ∧
      ∀ e' c, owner.Makes (depthLimit - 1) e' c →
        Made (depthLimit - 1) layout.fields (u :: e' :: rest) (first :: c :: cs) := by
  obtain ⟨-, s, -, -, hs, -⟩ := hbody
  obtain ⟨_, hmade⟩ := orderly.exists_made (depthLimit - 1) hs.values hs.enough
  cases hmade with
  | next huuid hmade =>
    cases hmade with
    | next _ hrest => exact ⟨_, _, hrest, fun e' c hc => .next huuid (.next hc hrest)⟩

/-- The fields after the team leave it as it is. -/
private theorem keeps_team : ∀ f ∈ layout.fields.drop 2, f.Keeps Flow.team := by
  simp only [layout, List.drop_succ_cons, List.drop_zero, List.forall_mem_cons, List.not_mem_nil, false_imp_iff,
    implies_true, and_true]
  repeat' constructor
  all_goals exact Field.keeps_of fun _ _ => rfl

/-- What the fields of a team make of values is put in as the team, in either form. -/
private theorem exists_owner (he : Lays Team.keys us e) : ∃ c : Option Team,
    (∀ e', Lays Team.keys us e' → owner.Makes (depthLimit - 1) e' (c.map fun x f => { f with team := x })) ∧
      ∀ x, read Team.decoder e = .ok x ↔ c = some x := by
  obtain ⟨cs, hcs⟩ := Team.orderly.exists_made (depthLimit - 2) he.values he.enough
  refine ⟨changedBy Team.blank cs, fun e' he' => ?_, fun x => ?_⟩
  · exact Layout.makes_lays Team.regular Team.orderly.distinct hcs he'
  · -- By itself a team has one bracket less around it, which makes no difference to texts.
    have hdepth : Made (depthLimit - 1) Team.layout.fields us cs := hcs.depth fun f hf => Team.shallow f hf _ _
    exact Team.orderly.read_eq_ok_iff hdepth ⟨[], e, [], blank_nil, he, blank_nil, by simp⟩

end Owner

/-- A team is the same team in a flow, in whatever forms the two are. -/
structure KeepsTeams (url : String) : Prop where
  /-- The form of the team makes no difference to the flow, nor does that of the flow. -/
  alike : ∀ u us rest e e' body body', Lays Team.keys us e → Lays Team.keys us e' →
    InBlanks (Lays keys (u :: e :: rest)) body → InBlanks (Lays keys (u :: e' :: rest)) body' →
    ∀ f, Body.flow.decode url body = .ok f ↔ Body.flow.decode url body' = .ok f
  /-- The flow has the team that is read from its text alone. -/
  own : ∀ u us rest e body f, Lays Team.keys us e → InBlanks (Lays keys (u :: e :: rest)) body →
    Body.flow.decode url body = .ok f → Body.team.decode url e = .ok f.team
  /-- With a team that lists too many values, nothing is a flow. -/
  excess : ∀ u us rest e body, Lists us e → Team.keys.length < us.length →
    InBlanks (Lays keys (u :: e :: rest)) body → ∃ r, Body.flow.decode url body = .error (.decode url r)

theorem keepsTeams (url : String) : KeepsTeams url where
  alike := by
    intro u us rest e e' body body' he he' hbody hbody' f
    obtain ⟨first, cs, -, hmade⟩ := exists_made hbody
    obtain ⟨c, howner, -⟩ := exists_owner he
    rw [Body.decode_eq_ok_iff, Body.decode_eq_ok_iff]
    exact (orderly.read_eq_ok_iff (hmade e _ (howner e he)) hbody).trans
      (orderly.read_eq_ok_iff (hmade e' _ (howner e' he')) hbody').symm
  own := by
    intro u us rest e body f he hbody hf
    obtain ⟨first, cs, hrest, hmade⟩ := exists_made hbody
    obtain ⟨c, howner, hteam⟩ := exists_owner he
    have hchanged := (orderly.read_eq_ok_iff (hmade e _ (howner e he)) hbody).mp (Body.decode_eq_ok_iff.mp hf)
    refine Body.decode_eq_ok_iff.mpr ((hteam f.team).mpr ?_)
    cases first with
    | none => cases hchanged
    | some change =>
      cases c with
      | none => cases hchanged
      | some x => rw [hrest.keeps keeps_team hchanged]
  excess := by
    intro u us rest e body he hlt hbody
    obtain ⟨first, cs, -, hmade⟩ := exists_made hbody
    have hnone : owner.Makes (depthLimit - 1) e none :=
      Layout.makes_excess (fun f hf => Team.orderly.makes f hf _) he hlt
    refine Body.decode_eq_error fun f hf => ?_
    have hchanged := (orderly.read_eq_ok_iff (hmade e _ hnone) hbody).mp (Body.decode_eq_ok_iff.mp hf)
    cases first with
    | none => cases hchanged
    | some change => cases hchanged

end Flow

/-- Clusters, teams and flows mean the same by position and by name, and so do the teams in flows. -/
theorem positions_mean_names (url : String) :
    Body.cluster.Positional Cluster.keys Cluster.toValue Cluster.blank url ∧
    Body.team.Positional Team.keys Team.toValue Team.blank url ∧
    Body.flow.Positional Flow.keys Flow.toValue Flow.blank url ∧
    Flow.KeepsTeams url :=
  ⟨Body.positional_of_orderly (k := .cluster) Cluster.orderly rfl (fun _ => rfl) url,
    Body.positional_of_orderly (k := .team) Team.orderly rfl (fun _ => rfl) url,
    Body.positional_of_orderly (k := .flow) Flow.orderly rfl (fun _ => rfl) url, Flow.keepsTeams url⟩

end FlowCluster
