import FlowCluster.Proofs.CommandLine.Flags
import FlowCluster.Proofs.CommandLine.Outcome
import FlowCluster.Proofs.Json.Pretty
import FlowCluster.Proofs.Passwords
import FlowCluster.Proofs.RoundTrip

/-! # What is printed can be read back

A document that is printed is decoded to the record that it was printed from, whatever texts this holds: lines are
begun with white space, and the strings on them have no line of their own to begin. -/

namespace FlowCluster

open Json

theorem encode_line (v : Value) :
    Text.Utf8.encode (v.pretty ++ "\n") = bytesOf (v.prettyChars 0) ++ ['\n'.toUInt8] := by
  have hline : bytesOf "\n".toList = ['\n'.toUInt8] := by decide
  have hjoined : (v.pretty ++ "\n").toList = v.prettyChars 0 ++ "\n".toList := by
    rw [String.toList_append, Value.pretty, String.toList_ofList]
  rw [Text.Utf8.encode, hjoined, ← hline, ← bytesOf_append]
  rfl

/-- An object of texts over several lines has these texts as its members. -/
theorem objectText_pretty (depth : Nat) (fields : List (String × String)) {w : Bytes} (hw : Blank w) :
    ObjectText (bytesOf ((Value.object (fields.map fun p => (p.1, Value.text p.2))).prettyChars depth) ++ w)
      (textMembers fields) := by
  have hmeans : List.Forall₂
      (fun (m : String × Value) (x : String × Content) => m.1 = x.1 ∧ Means (bytesOf (m.2.prettyChars (depth + 1))) x.2)
      (fields.map fun p => (p.1, Value.text p.2)) (textMembers fields) := by
    rw [textMembers, List.forall₂_map_left_iff, List.forall₂_map_right_iff, List.forall₂_same]
    intro p _
    exact ⟨rfl, .text (quoted_stringChars p.2)⟩
  obtain ⟨t, ht, hm⟩ := Value.members_pretty (R := fun _ => Means) hmeans
  exact ⟨[], t, w, blank_nil, hm, hw, by rw [ht, List.cons_append, List.nil_append]⟩

theorem Cluster.decode_pretty (url : String) (c : Cluster) :
    Body.cluster.decode url (Text.Utf8.encode (c.toValue.pretty ++ "\n")) = .ok c := by
  have hobject := objectText_pretty 0 [("identifier", c.identifier), ("address", c.address), ("version", c.version),
    ("username", c.username), ("password", c.password), ("type", c.kind)] (w := ['\n'.toUInt8]) (by decide)
  rw [encode_line]
  apply (Cluster.decode_eq_ok_iff hobject c).mpr
  exact ⟨sensible_textMembers _ (by simp), rfl⟩

theorem Team.decode_pretty (url : String) (t : Team) :
    Body.team.decode url (Text.Utf8.encode (t.toValue.pretty ++ "\n")) = .ok t := by
  have hobject := objectText_pretty 0 [("bucket_uuid", t.bucket), ("slug", t.slug), ("name", t.name)]
    (w := ['\n'.toUInt8]) (by decide)
  rw [encode_line]
  apply (Team.decode_eq_ok_iff hobject t).mpr
  exact ⟨sensible_textMembers _ (by simp), rfl⟩

/-- What a list shows of a cluster, with nothing for the rest. -/
def Cluster.listed (c : Cluster) : Cluster := ⟨c.identifier, c.address, "", "", "", c.kind⟩

/-- The entry of a cluster in a list, with the white space around it. -/
theorem Cluster.accepts_summary (url : String) (depth : Nat) (c : Cluster) {v w : Bytes} (hv : Blank v) (hw : Blank w) :
    Body.Accepts url (v ++ (bytesOf (c.summary.prettyChars depth) ++ w)) c.listed := by
  obtain ⟨v', t, w', hv', hm, hw', heq⟩ :=
    objectText_pretty depth [("identifier", c.identifier), ("address", c.address), ("type", c.kind)] hw
  have hobject : ObjectText (v ++ (bytesOf (c.summary.prettyChars depth) ++ w))
      (textMembers [("identifier", c.identifier), ("address", c.address), ("type", c.kind)]) := by
    refine ⟨v ++ v', t, w', blank_append_iff.mpr ⟨hv, hv'⟩, hm, hw', ?_⟩
    rw [List.append_assoc, ← heq]
    rfl
  apply (Cluster.decode_eq_ok_iff hobject c.listed).mpr
  exact ⟨sensible_textMembers _ (by simp), rfl⟩

theorem Cluster.decode_pretty_list (url : String) (cs : List Cluster) :
    Body.clusters.decode url (Text.Utf8.encode ((Value.list (cs.map Cluster.summary)).pretty ++ "\n")) =
      .ok (cs.map Cluster.listed) := by
  -- The white space between entries belongs to the line of the next one.
  have hentries : List.Forall₂ (fun (v : Value) (c : Cluster) =>
      ∀ u w, Blank u → Blank w → Body.Accepts url (u ++ (bytesOf (v.prettyChars 1) ++ w)) c)
      (cs.map Cluster.summary) (cs.map Cluster.listed) := by
    rw [List.forall₂_map_left_iff, List.forall₂_map_right_iff, List.forall₂_same]
    intro c _ u w hu hw
    exact Cluster.accepts_summary url 1 c hu hw
  obtain ⟨t, ht, hitems⟩ := Value.items_pretty
    (R := fun e (c : Cluster) => ∀ u w, Blank u → Blank w → Body.Accepts url (u ++ (e ++ w)) c) hentries
  obtain ⟨inner, rfl, helements⟩ := items_iff.mp hitems
  apply Body.clusters_decode_iff.mpr
  refine ⟨inner, ⟨[], ['\n'.toUInt8], blank_nil, by decide, ?_⟩, ?_⟩
  · rw [encode_line, ht, List.cons_append, List.append_assoc]
    rfl
  · rcases helements with ⟨hb, hnil⟩ | ⟨es, hes, rfl⟩
    · exact .inl ⟨hb, hnil⟩
    · refine .inr ⟨es, hes.imp ?_, rfl⟩
      rintro s c ⟨u, e, w, hu, he, hw, rfl⟩
      exact he u w hu hw

open CommandLine

/-- A run that succeeds prints what its call brought: the cluster, with its password only if the line asks for it, the
team of the flow, or of each cluster in the list what is no secret. Read by the decoder of the kind, it is that record. -/
theorem printed_reads_back {ρ : Type} (e : Environment) (args : List String) (i : Invocation) (t : Transport ρ)
    (url : String) (hread : Invocation.read e args = .ok i) (hexit : (run e args t).exit = 0) :
    (∀ apiKey id cluster strict showPassword, i.action = .resolve apiKey id cluster strict showPassword →
      ∃ c, (i.action.step.run i.settings t).result = .ok (.cluster c) ∧
        Body.cluster.decode url (Text.Utf8.encode (run e args t).printed) =
          .ok (if "--show-password" ∈ args then c else c.redacted)) ∧
    (∀ apiKey id, i.action = .flow apiKey id →
      ∃ f, (i.action.step.run i.settings t).result = .ok (.flow f) ∧
        Body.team.decode url (Text.Utf8.encode (run e args t).printed) = .ok f.team) ∧
    ∀ bucket, i.action = .clusters bucket →
      ∃ cs, (i.action.step.run i.settings t).result = .ok (.clusters cs) ∧
        Body.clusters.decode url (Text.Utf8.encode (run e args t).printed) =
          .ok (cs.map fun c => ⟨c.identifier, c.address, "", "", "", c.kind⟩) := by
  have hending := i.run_ending (i.filter e) t
  rw [run_of_read hread] at hexit ⊢
  generalize i.run (i.filter e) t = outcome at hending hexit ⊢
  generalize (i.action.step.run i.settings t).result = result at hending ⊢
  cases hending with
  | reported => cases hexit
  | printed hprints =>
    refine ⟨?_, ?_, ?_⟩
    · intro apiKey id cluster strict showPassword ha
      obtain ⟨-, hshow⟩ := Invocation.flags_of_read hread ha
      rw [ha] at hprints
      cases hprints with
      | cleartext c => exact ⟨c, rfl, by rw [if_pos (hshow.mp rfl), Cluster.decode_pretty]⟩
      | redacted c =>
        have hnot : "--show-password" ∉ args := fun h => Bool.false_ne_true (hshow.mpr h)
        exact ⟨c, rfl, by rw [if_neg hnot, Cluster.decode_pretty]⟩
    · intro apiKey id ha
      rw [ha] at hprints
      cases hprints with
      | team f => exact ⟨f, rfl, Team.decode_pretty url f.team⟩
    · intro bucket ha
      rw [ha] at hprints
      cases hprints with
      | summaries cs => exact ⟨cs, rfl, Cluster.decode_pretty_list url cs⟩

/-- A password with a quote and a line break, asked for in cleartext. -/
theorem printed_reads_back_guarded :
    let args := hubArguments ++ ["--show-password"]
    let i : Invocation := ⟨hub, false, false, .resolve "key" "f" "c" false true⟩
    let t := (guardedDirectory "one\\\"\\ntwo").transport
    Invocation.read ⟨[]⟩ args = .ok i ∧ (run ⟨[]⟩ args t).exit = 0 ∧
      ∃ c, (i.action.step.run i.settings t).result = .ok (.cluster c) ∧
        Body.cluster.decode "https://hub" (Text.Utf8.encode (run ⟨[]⟩ args t).printed) = .ok c := by
  intro args i t
  have hread : Invocation.read ⟨[]⟩ args = .ok i := by decide +kernel
  have hexit : (run ⟨[]⟩ args t).exit = 0 := by decide +kernel
  refine ⟨hread, hexit, ?_⟩
  obtain ⟨c, hc, hdecode⟩ :=
    (printed_reads_back ⟨[]⟩ args i t "https://hub" hread hexit).1 "key" "f" "c" false true rfl
  have hshow : "--show-password" ∈ args := by decide
  exact ⟨c, hc, by rw [hdecode, if_pos hshow]⟩

end FlowCluster
