import FlowCluster.Proofs.Json.Compact
import FlowCluster.Proofs.RoundTrip

/-! # Flows that are written and read again

A flow that was read, whatever its body left out, repeated or had null, is written in one way, and read back from it if
the numbers in its payloads are whole. The payloads are read with their members in order, and the text of a flow opens
no more brackets than its body did. -/

namespace FlowCluster

open Json

namespace Flow

/-- The payloads of a flow, which are kept as they come, are all as `P` says. -/
structure Payloads (P : Value → Prop) (f : Flow) : Prop where
  configuration : P f.configuration
  pipelines : P f.pipelines
  repository : P f.repository
  user : P f.user

instance (P : Value → Prop) [DecidablePred P] (f : Flow) : Decidable (f.Payloads P) :=
  decidable_of_iff (P f.configuration ∧ P f.pipelines ∧ P f.repository ∧ P f.user)
    ⟨fun ⟨hc, hp, hr, hu⟩ => ⟨hc, hp, hr, hu⟩, fun h => ⟨h.configuration, h.pipelines, h.repository, h.user⟩⟩

variable {f : Flow} {d : Nat} {e : Bytes}

/-- The payloads of a flow that is read have their members in order. -/
theorem ordered_of_recordText (h : layout.RecordText (d + 1) e f) : f.Payloads (Value.Ordered d) := by
  refine h.keeps ?_ ⟨.scalar .null, .scalar .null, .scalar .null, .scalar .null⟩
  intro field hfield e change g he hg
  simp only [layout, List.mem_cons, List.not_mem_nil, or_false] at hfield
  have hvalue {name : String} {put : Value → Flow → Flow}
      (he : Exactly ((Field.of name value put).decoder d) e change) : ∃ v, v.Ordered d ∧ change = put v := by
    obtain ⟨v, hv, rfl⟩ := ((Field.of_reads (value_reads d)).exactly_iff apart_nil).mp he
    exact ⟨v, hv.ordered, rfl⟩
  rcases hfield with rfl | rfl | rfl | rfl | rfl | rfl
  · obtain ⟨t, -, rfl⟩ := ((Field.nullableText_reads _ _ d).exactly_iff trivial).mp he
    exact ⟨hg.configuration, hg.pipelines, hg.repository, hg.user⟩
  · obtain ⟨t, -, rfl⟩ := ((team_field_reads d).exactly_iff trivial).mp he
    exact ⟨hg.configuration, hg.pipelines, hg.repository, hg.user⟩
  · obtain ⟨v, hv, rfl⟩ := hvalue he
    exact { hg with configuration := hv }
  · obtain ⟨v, hv, rfl⟩ := hvalue he
    exact { hg with pipelines := hv }
  · obtain ⟨v, hv, rfl⟩ := hvalue he
    exact { hg with repository := hv }
  · obtain ⟨v, hv, rfl⟩ := hvalue he
    exact { hg with user := hv }

end Flow

/-- A team without white space is the text of a record, however many brackets are open around it. -/
theorem Team.recordText_compact (d : Nat) (t : Team) :
    Team.layout.RecordText (d + 1) (bytesOf t.toValue.compactChars) t := by
  obtain ⟨tail, ht, hm⟩ := members_textMembers [("bucket_uuid", t.bucket), ("slug", t.slug), ("name", t.name)]
  have heffects := Layout.members_effects "TeamDescriptor" Team.blank Team.texts d hm
  exact ⟨d, rfl, .inr ⟨tail, _, heffects, rfl, ht⟩⟩

namespace Flow

variable {f : Flow} {d : Nat}

/-- What the members of a flow that is written put in. -/
def effects (f : Flow) : List (String × Layout.Effect Flow) := [
  ("uuid", .put fun g => { g with uuid := f.uuid }),
  ("team", .put fun g => { g with team := f.team }),
  ("configuration", .put fun g => { g with configuration := f.configuration }),
  ("pipelines", .put fun g => { g with pipelines := f.pipelines }),
  ("repository", .put fun g => { g with repository := f.repository }),
  ("user", .put fun g => { g with user := f.user })]

/-- Written whole, a flow leaves nothing of the blank one. -/
theorem gather_effects (f : Flow) : Layout.gather [] blank f.effects = some f := by
  simp [effects, Layout.gather]

private theorem value_memberText (name : String) {put : Value → Flow → Flow} {v : Value}
    (hfield : layout.field? name = some (Field.of name Json.value put)) (ho : v.Ordered d) (hi : v.isIntegral = true) :
    layout.MemberText d name (bytesOf v.compactChars) (.put (put v)) := by
  have hreads : Reads Apart ((Field.of name Json.value put).decoder d) (fun e p => ∃ v, ValueText d e v ∧ p = put v) :=
    Field.of_reads (value_reads d)
  exact ⟨_, hfield, (hreads.exactly_iff apart_nil).mpr ⟨v, ho.valueText hi, rfl⟩⟩

theorem recordText_compact (ho : f.Payloads (Value.Ordered (d + 1))) (hi : f.Payloads fun v => v.isIntegral = true) :
    layout.RecordText (d + 2) (bytesOf f.toValue.compactChars) f := by
  have huuid : layout.MemberText (d + 1) "uuid" (bytesOf (Value.text f.uuid).compactChars)
      (.put fun g => { g with uuid := f.uuid }) := by
    have hreads := Field.nullableText_reads "uuid" (fun x (g : Flow) => { g with uuid := x }) (d + 1)
    exact ⟨_, rfl, (hreads.exactly_iff trivial).mpr ⟨f.uuid, .inr (quoted_stringChars f.uuid), rfl⟩⟩
  have hteam : layout.MemberText (d + 1) "team" (bytesOf f.team.toValue.compactChars)
      (.put fun g => { g with team := f.team }) := by
    have hreads := team_field_reads (d + 1)
    exact ⟨_, rfl, (hreads.exactly_iff trivial).mpr ⟨f.team, .inr (Team.recordText_compact d f.team), rfl⟩⟩
  have hconfiguration := value_memberText "configuration" rfl ho.configuration hi.configuration
  have hpipelines := value_memberText "pipelines" rfl ho.pipelines hi.pipelines
  have hrepository := value_memberText "repository" rfl ho.repository hi.repository
  have huser := value_memberText "user" rfl ho.user hi.user
  have hmembers : List.Forall₂ (fun (m : String × Value) (x : String × Layout.Effect Flow) =>
      m.1 = x.1 ∧ layout.MemberText (d + 1) m.1 (bytesOf m.2.compactChars) x.2)
      [("uuid", .text f.uuid), ("team", f.team.toValue), ("configuration", f.configuration),
        ("pipelines", f.pipelines), ("repository", f.repository), ("user", f.user)] f.effects :=
    .cons ⟨rfl, huuid⟩ (.cons ⟨rfl, hteam⟩ (.cons ⟨rfl, hconfiguration⟩ (.cons ⟨rfl, hpipelines⟩
      (.cons ⟨rfl, hrepository⟩ (.cons ⟨rfl, huser⟩ .nil)))))
  obtain ⟨t, ht, hm⟩ := Value.members_compact (R := layout.MemberText (d + 1)) hmembers
  exact ⟨d + 1, rfl, .inr ⟨t, f.effects, hm, f.gather_effects, ht⟩⟩

end Flow

theorem Flow.decode_compact (url : String) {f : Flow} (ho : f.Payloads (Value.Ordered (depthLimit - 1)))
    (hi : f.Payloads fun v => v.isIntegral = true) :
    Body.flow.decode url (Text.Utf8.encode f.toValue.compact) = .ok f := by
  rw [Value.compact, encode_ofList]
  have htext : Flow.layout.RecordText depthLimit (bytesOf f.toValue.compactChars) f :=
    Flow.recordText_compact (d := 125) ho hi
  apply Body.decode_eq_ok_iff.mpr
  apply (read_eq_ok_iff (Flow.decoder_reads depthLimit)).mpr
  exact ⟨[], _, [], blank_nil, htext, blank_nil, by rw [List.append_nil, List.nil_append]⟩

/-- The payloads of a flow that was decoded open one bracket less than a body may, and have their members in order. -/
theorem Flow.ordered_of_decode {url : String} {body : Bytes} {f : Flow} (h : Body.flow.decode url body = .ok f) :
    f.Payloads (Value.Ordered (depthLimit - 1)) := by
  have hread : read Flow.decoder body = .ok f := Body.decode_eq_ok_iff.mp h
  obtain ⟨v, e, w, -, htext, -, -⟩ := (read_eq_ok_iff (Flow.decoder_reads depthLimit)).mp hread
  exact Flow.ordered_of_recordText htext

/-- A flow that was decoded from any body, with whole numbers alone in its payloads, is decoded from its own text to
itself, and so its text is always the same. In its payloads the members stand in order, and of several members with one
key the last counts. -/
theorem decode_flow_compact (url url' : String) (body : Bytes) (f : Flow) (h : Body.flow.decode url body = .ok f)
    (hi : f.Payloads fun v => v.isIntegral = true) :
    Body.flow.decode url' (Text.Utf8.encode f.toValue.compact) = .ok f ∧
    (∀ g, Body.flow.decode url' (Text.Utf8.encode f.toValue.compact) = .ok g →
      g.toValue.compact = f.toValue.compact) ∧
    f.Payloads (Value.Ordered (depthLimit - 1)) ∧
    ∀ d t ms, Members (fun _ => ValueText d) true t ms →
      ∃ os, Exactly (Json.value (d + 1)) ('\x7b'.toUInt8 :: t) (.object os) ∧ KeysOrdered os ∧
        ∀ key, os.lookup key = ms.reverse.lookup key := by
  have ho : f.Payloads (Value.Ordered (depthLimit - 1)) := Flow.ordered_of_decode h
  have hself : Body.flow.decode url' (Text.Utf8.encode f.toValue.compact) = .ok f := Flow.decode_compact url' ho hi
  refine ⟨hself, ?_, ho, ?_⟩
  · intro g hg
    have hsame : f = g := Except.ok.inj (hself.symm.trans hg)
    rw [hsame]
  · intro d t ms hms
    exact exactly_object hms

/-- A body with a null team, a member of no field, and a payload in which a key comes twice. -/
def untidyFlow : Bytes := Text.Utf8.encode
  ("\x7b \"user\": \x7b\"b\": 1, \"a\": [-2, \x7b\x7d, 18446744073709551615], \"b\": true\x7d, " ++
    "\"team\": null, \"x\": 0.5\x7d")

def tidyFlow : String :=
  "\x7b\"uuid\":\"\",\"team\":\x7b\"bucket_uuid\":\"\",\"slug\":\"\",\"name\":\"\"\x7d,\"configuration\":null," ++
    "\"pipelines\":null,\"repository\":null,\"user\":\x7b\"a\":[-2,\x7b\x7d,18446744073709551615],\"b\":true\x7d\x7d"

theorem decode_flow_compact_untidy :
    ∃ f, Body.flow.decode "http://localhost" untidyFlow = .ok f ∧ (f.Payloads fun v => v.isIntegral = true) ∧
      f.toValue.compact = tidyFlow ∧
      Body.flow.decode "http://localhost" (Text.Utf8.encode f.toValue.compact) = .ok f := by
  have hread : (read Flow.decoder untidyFlow).toOption.map (fun f =>
      (decide (f.Payloads fun v => v.isIntegral = true), f.toValue.compact)) = some (true, tidyFlow) := by
    decide +kernel
  cases hf : read Flow.decoder untidyFlow with
  | error r =>
    rw [hf] at hread
    cases hread
  | ok f =>
    rw [hf] at hread
    obtain ⟨hdecided, htext⟩ := Prod.mk.inj (Option.some.inj hread)
    have hi : f.Payloads fun v => v.isIntegral = true := of_decide_eq_true hdecided
    have hdecode : Body.flow.decode "http://localhost" untidyFlow = .ok f := Body.decode_eq_ok_iff.mpr hf
    exact ⟨f, hdecode, hi, htext,
      (decode_flow_compact "http://localhost" "http://localhost" untidyFlow f hdecode hi).1⟩

end FlowCluster
