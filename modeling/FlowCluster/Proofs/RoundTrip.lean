import FlowCluster.Proofs.Elements
import FlowCluster.Proofs.Json.Written

/-! # Records that are written and read again

A cluster, a team or a list of clusters that is written without white space is decoded to itself, whatever texts it
holds, and nothing is reported. So a written record stands for one record only. -/

namespace FlowCluster

open Json

/-- Texts under their keys as the members of an object. -/
def textMembers (fields : List (String × String)) : List (String × Content) := fields.map fun p => (p.1, .text p.2)

theorem members_textMembers (fields : List (String × String)) :
    ∃ t, bytesOf (Value.object (fields.map fun p => (p.1, Value.text p.2))).compactChars = '\x7b'.toUInt8 :: t ∧
      Members (fun _ => Means) true t (textMembers fields) := by
  apply Value.members_compact (R := fun _ => Means)
  rw [textMembers, List.forall₂_map_left_iff, List.forall₂_map_right_iff, List.forall₂_same]
  intro p _
  exact ⟨rfl, .text (quoted_stringChars p.2)⟩

/-- An object of texts without white space has these texts as its members. -/
theorem objectText_compact (fields : List (String × String)) :
    ObjectText (Text.Utf8.encode (Value.object (fields.map fun p => (p.1, Value.text p.2))).compact)
      (textMembers fields) := by
  obtain ⟨t, ht, hm⟩ := members_textMembers fields
  refine ⟨[], t, [], blank_nil, hm, blank_nil, ?_⟩
  rw [Value.compact, encode_ofList, ht, List.append_nil, List.nil_append]

/-- Texts under different keys are sensible members, whatever they are. -/
theorem sensible_textMembers {fields : List (String × String)} (names : List String)
    (h : (fields.map Prod.fst).Nodup) : Sensible names (textMembers fields) := by
  constructor
  · have hsub : ((known names (textMembers fields)).map Prod.fst).Sublist ((textMembers fields).map Prod.fst) :=
      List.filter_sublist.map Prod.fst
    have hkeys : (textMembers fields).map Prod.fst = fields.map Prod.fst := by simp [textMembers]
    rw [hkeys] at hsub
    exact h.sublist hsub
  · intro m hm
    obtain ⟨p, -, rfl⟩ := List.mem_map.mp (List.mem_filter.mp hm).1
    intro ho
    cases ho

theorem Cluster.decode_compact (url : String) (c : Cluster) :
    Body.cluster.decode url (Text.Utf8.encode c.toValue.compact) = .ok c := by
  have hobject := objectText_compact [("identifier", c.identifier), ("address", c.address), ("version", c.version),
    ("username", c.username), ("password", c.password), ("type", c.kind)]
  apply (Cluster.decode_eq_ok_iff hobject c).mpr
  exact ⟨sensible_textMembers _ (by simp), rfl⟩

theorem Team.decode_compact (url : String) (t : Team) :
    Body.team.decode url (Text.Utf8.encode t.toValue.compact) = .ok t := by
  have hobject := objectText_compact [("bucket_uuid", t.bucket), ("slug", t.slug), ("name", t.name)]
  apply (Team.decode_eq_ok_iff hobject t).mpr
  exact ⟨sensible_textMembers _ (by simp), rfl⟩

theorem Cluster.decode_compact_list (url : String) (cs : List Cluster) :
    Body.clusters.decode url (Text.Utf8.encode (Value.list (cs.map Cluster.toValue)).compact) = .ok cs := by
  have helements : List.Forall₂ (Body.Accepts url) (cs.map fun c => bytesOf c.toValue.compactChars) cs := by
    rw [List.forall₂_map_left_iff, List.forall₂_same]
    intro c _
    have hc := Cluster.decode_compact url c
    rwa [Value.compact, encode_ofList] at hc
  apply Body.clusters_decode_iff.mpr
  refine ⟨_, ⟨[], [], blank_nil, blank_nil, ?_⟩, .inr ⟨_, helements, rfl⟩⟩
  rw [Value.compact, encode_ofList, Value.compact_list_eq, List.map_map]
  rfl

/-- What is decoded without failure is decoded without a trace. -/
theorem Body.decodeBody_of_decode {ρ : Type} {k : Body} {url : String} {body : Bytes} {x : k.Record}
    (h : k.decode url body = .ok x) :
    (Lookup.decodeBody k.decoder url body : Attempt ρ CallFailure k.Record) = .ofExcept (.ok x) := by
  rw [Lookup.decodeBody, Body.decode_eq_ok_iff.mp h]

/-- What is decoded from its text is known by it. -/
theorem Body.write_injective {k : Body} {url : String} {write : k.Record → String}
    (h : ∀ x, k.decode url (Text.Utf8.encode (write x)) = .ok x) : Function.Injective write := by
  intro x y hxy
  have hx := h x
  rw [hxy, h y] at hx
  exact (Except.ok.inj hx).symm

/-- Written and decoded again, lists of clusters, clusters and teams are what they were, and no event is reported; and
their texts are equal only if they are. -/
theorem decodeBody_compact (url : String) :
    (∀ cs : List Cluster, (Lookup.decodeBody (Json.list Cluster.decoder) url
      (Text.Utf8.encode (Value.list (cs.map Cluster.toValue)).compact) :
        Attempt Request CallFailure (List Cluster)) = .ofExcept (.ok cs)) ∧
    (∀ c : Cluster, (Lookup.decodeBody Cluster.decoder url (Text.Utf8.encode c.toValue.compact) :
      Attempt Request CallFailure Cluster) = .ofExcept (.ok c)) ∧
    (∀ t : Team, (Lookup.decodeBody Team.decoder url (Text.Utf8.encode t.toValue.compact) :
      Attempt Request CallFailure Team) = .ofExcept (.ok t)) ∧
    (∀ cs ds : List Cluster,
      (Value.list (cs.map Cluster.toValue)).compact = (Value.list (ds.map Cluster.toValue)).compact ↔ cs = ds) ∧
    (∀ c d : Cluster, c.toValue.compact = d.toValue.compact ↔ c = d) ∧
    ∀ t u : Team, t.toValue.compact = u.toValue.compact ↔ t = u := by
  have hlist := Cluster.decode_compact_list url
  have hcluster := Cluster.decode_compact url
  have hteam := Team.decode_compact url
  refine ⟨?_, ?_, ?_, ?_, ?_, ?_⟩
  · intro cs
    exact Body.decodeBody_of_decode (k := .clusters) (hlist cs)
  · intro c
    exact Body.decodeBody_of_decode (k := .cluster) (hcluster c)
  · intro t
    exact Body.decodeBody_of_decode (k := .team) (hteam t)
  · intro cs ds
    exact (Body.write_injective (k := .clusters) hlist).eq_iff
  · intro c d
    exact (Body.write_injective (k := .cluster) hcluster).eq_iff
  · intro t u
    exact (Body.write_injective (k := .team) hteam).eq_iff

end FlowCluster
