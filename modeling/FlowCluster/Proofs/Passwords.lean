import FlowCluster.CommandLine.Run
import FlowCluster.Proofs.CommandLine.Flags
import FlowCluster.Proofs.Lookup
import FlowCluster.Proofs.Selection
import FlowCluster.Proofs.Settings.Segment
import Mathlib.Logic.Function.Basic

/-! # Lookups do not tell passwords

Where two directories differ in nothing but the passwords that one bucket lists, a lookup goes the same way over both:
it sends the same, reports the same, and the records that it brings are the same once their passwords are taken out.
The report of a resolution asks whether the record is blank, and so reads the password too, but a record that was
selected by a name is never blank. -/

namespace FlowCluster

/-- The rest of a computation does not tell apart what `g` takes to be the same. -/
theorem bind_eq_of_factorsThrough {m : Type → Type} [Monad m] [LawfulMonad m] {α β γ : Type} {x y : m α} {g : α → γ}
    {k : α → m β} (hk : k.FactorsThrough g) (h : g <$> x = g <$> y) : x >>= k = y >>= k := by
  have hrest (z : m α) : z >>= k = g <$> z >>= g.extend k fun _ => x >>= k := by
    rw [bind_map_left]
    simp only [hk.extend_apply]
  rw [hrest x, hrest y, h]

theorem map_eq_of_factorsThrough {m : Type → Type} [Monad m] [LawfulMonad m] {α β γ : Type} {x y : m α} {g : α → γ}
    {k : α → β} (hk : k.FactorsThrough g) (h : g <$> x = g <$> y) : k <$> x = k <$> y := by
  have hpure : (fun a => pure (k a) : α → m β).FactorsThrough g := fun a b hab => congrArg pure (hk hab)
  rw [← bind_pure_comp, ← bind_pure_comp]
  exact bind_eq_of_factorsThrough hpure h

namespace Cluster

/-- A copy in which every password is the same. -/
def withoutPassword (c : Cluster) : Cluster := { c with password := "" }

theorem summaries_withoutPassword (cs : List Cluster) : (cs.map withoutPassword).map summary = cs.map summary := by
  rw [List.map_map]
  rfl

/-- Where both passwords are empty, or neither is, no more of them is left. -/
theorem redacted_eq {c d : Cluster} (h : c.withoutPassword = d.withoutPassword)
    (hp : c.password = "" ↔ d.password = "") : c.redacted = d.redacted := by
  have hredacted (c : Cluster) : c.redacted =
      { c.withoutPassword with password := if c.password = "" then "" else redaction } := by
    rw [redacted]
    split
    · next hc => rw [withoutPassword, ← hc]
    · rfl
  rw [hredacted c, hredacted d, h]
  simp only [hp]

end Cluster

namespace Selection

open Cluster

variable {cs ds : List Cluster} {identifier : String}

theorem last?_map_withoutPassword (cs : List Cluster) (identifier : String) :
    last? (cs.map withoutPassword) identifier = (last? cs identifier).map withoutPassword := by
  have hidentifier : ((fun c : Cluster => decide (c.identifier = identifier)) ∘ withoutPassword) =
      fun c => decide (c.identifier = identifier) := rfl
  rw [last?, List.filter_map, List.getLast?_map, hidentifier, last?]

/-- In lists that are the same up to passwords, so is the last cluster of an identifier. -/
theorem last?_factorsThrough (identifier : String) :
    (fun cs => (last? cs identifier).map withoutPassword).FactorsThrough (List.map withoutPassword) := by
  intro cs ds h
  dsimp only
  rw [← last?_map_withoutPassword, h, last?_map_withoutPassword]

theorem select_factorsThrough (identifier : String) :
    (fun cs => (select cs identifier).withoutPassword).FactorsThrough (List.map withoutPassword) := by
  have hselect (cs : List Cluster) :
      (select cs identifier).withoutPassword = ((last? cs identifier).map withoutPassword).getD .blank := by
    rw [select_eq]
    cases last? cs identifier with
    | some c => rfl
    | none => rfl
  intro cs ds h
  dsimp only
  rw [hselect cs, hselect ds]
  exact congrArg (Option.getD · Cluster.blank) (last?_factorsThrough identifier h)

theorem selectStrict_factorsThrough (bucket identifier : String) :
    (fun cs => withoutPassword <$> selectStrict cs bucket identifier).FactorsThrough (List.map withoutPassword) := by
  have hselect (cs : List Cluster) : withoutPassword <$> selectStrict cs bucket identifier =
      ((last? cs identifier).map withoutPassword).elim (.error (.clusterNotFound bucket identifier)) .ok := by
    cases hc : last? cs identifier with
    | some c => rw [selectStrict_of_some hc]; rfl
    | none => rw [selectStrict_of_none hc]; rfl
  intro cs ds h
  dsimp only
  rw [hselect cs, hselect ds]
  exact congrArg (Option.elim · _ _) (last?_factorsThrough identifier h)

/-- A cluster that was selected by a name bears it, so it is not blank. -/
theorem isBlank_select (hne : identifier ≠ "") (cs : List Cluster) :
    (select cs identifier).isBlank = (last? cs identifier).isNone := by
  cases hc : last? cs identifier with
  | none =>
    rw [select_of_none hc]
    rfl
  | some c =>
    rw [select_of_some hc, Option.isNone_some, Cluster.isBlank, beq_eq_false_iff_ne]
    rintro rfl
    exact hne (identifier_of_last? hc).symm

theorem isBlank_select_factorsThrough (hne : identifier ≠ "") :
    (fun cs => (select cs identifier).isBlank).FactorsThrough (List.map withoutPassword) := by
  intro cs ds h
  have hnone : ((last? cs identifier).map withoutPassword).isNone =
      ((last? ds identifier).map withoutPassword).isNone :=
    congrArg Option.isNone (last?_factorsThrough identifier h)
  rw [Option.isNone_map, Option.isNone_map] at hnone
  dsimp only
  rwa [isBlank_select hne, isBlank_select hne]

end Selection

variable {ρ α : Type} {s : Settings} {t t' : Transport ρ} {apiKey id bucket url : String} {cs ds : List Cluster}

namespace Lookup

/-- A document depends on nothing but the answer to its request. -/
theorem document_congr {r : Request} (h : t.fetch r = t'.fetch r) (decoder : Json.Decoder α)
    (failed : CallFailure → Event) : document t decoder failed r = document t' decoder failed r := by
  rw [document, document, h]

theorem body_of_served {r : Request} {own : String} {body : Bytes} {seen : List ρ} {events : List Event}
    (h : t.fetch r = ⟨.ok ⟨own, 200, some body⟩, seen, events⟩) :
    (do readBody (← t.fetch r) : Attempt ρ CallFailure Bytes) = ⟨.ok body, seen, events⟩ := by
  rw [h, Attempt.bind_of_ok rfl]
  simp only [readBody, Attempt.ofExcept, if_pos, List.append_nil]

theorem document_of_fit {r : Request} {own : String} {body : Bytes} {seen : List ρ} {events : List Event}
    {decoder : Json.Decoder α} {x : α} (h : t.fetch r = ⟨.ok ⟨own, 200, some body⟩, seen, events⟩)
    (hx : Json.read decoder body = .ok x) (failed : CallFailure → Event) :
    document t decoder failed r = ⟨.ok x, seen, events⟩ := by
  have hdecode : (decodeBody decoder r.url body : Attempt ρ CallFailure α) = pure x := by
    rw [decodeBody, hx]
    rfl
  rw [document, body_of_served h, Attempt.reportFailure, Attempt.bind_of_ok rfl, hdecode]
  simp only [Attempt.pure_result, Attempt.pure_seen, Attempt.pure_events, List.append_nil]

/-- A lookup of a flow depends on nothing but the answer from the address of the flow. -/
theorem flow_congr (h : ∀ r, r.url ≠ url → t.fetch r = t'.fetch r) (hflow : s.flowUrl id ≠ .ok url) (apiKey : String) :
    flow s t apiKey id = flow s t' apiKey id := by
  rw [flow, flow]
  cases hu : s.flowUrl id with
  | error e => rfl
  | ok there =>
    have hne : there ≠ url := by
      rintro rfl
      exact hflow hu
    simp only [Attempt.ofExcept_ok, pure_bind, document_congr (h ⟨there, apiKey⟩ hne)]

end Lookup

theorem Resolution.flow_congr (h : ∀ r, r.url ≠ url → t.fetch r = t'.fetch r) (hflow : s.flowUrl id ≠ .ok url)
    (apiKey : String) : flow s t apiKey id = flow s t' apiKey id := by
  rw [flow, flow, Lookup.flow_congr h hflow]

/-- Two transports that differ in nothing but the passwords of two lists of clusters, which they bring from one
address. -/
structure DifferInPasswords (url : String) (cs ds : List Cluster) (t t' : Transport ρ) : Prop where
  elsewhere : ∀ r, r.url ≠ url → t.fetch r = t'.fetch r
  there : ∀ r, r.url = url → ∃ own own' body body' seen events,
    t.fetch r = ⟨.ok ⟨own, 200, some body⟩, seen, events⟩ ∧ t'.fetch r = ⟨.ok ⟨own', 200, some body'⟩, seen, events⟩ ∧
    Json.read (Json.list Cluster.decoder) body = .ok cs ∧ Json.read (Json.list Cluster.decoder) body' = .ok ds
  alike : cs.map Cluster.withoutPassword = ds.map Cluster.withoutPassword

namespace DifferInPasswords

open Cluster Selection

/-- Directories in memory, which answer by address alone. -/
theorem of_answers {answer answer' : String → Except CallFailure Response × List Event} {own own' : String}
    {body body' : Bytes} {events : List Event} (helsewhere : ∀ u, u ≠ url → answer u = answer' u)
    (hanswer : answer url = (.ok ⟨own, 200, some body⟩, events))
    (hanswer' : answer' url = (.ok ⟨own', 200, some body'⟩, events))
    (hcs : Json.read (Json.list Cluster.decoder) body = .ok cs)
    (hds : Json.read (Json.list Cluster.decoder) body' = .ok ds)
    (halike : cs.map withoutPassword = ds.map withoutPassword) :
    DifferInPasswords url cs ds (.byAddress answer) (.byAddress answer') := by
  refine ⟨?_, ?_, halike⟩
  · intro r hr
    rw [Transport.fetch_byAddress, Transport.fetch_byAddress, helsewhere r.url hr]
  · intro r hr
    refine ⟨own, own', body, body', [r], events, ?_, ?_, hcs, hds⟩
    · rw [Transport.fetch_byAddress, hr, hanswer]
    · rw [Transport.fetch_byAddress, hr, hanswer']

/-- One directory, with one list of clusters or the other put in place at an address. -/
theorem of_publish (d : Directory) (url : String) {body body' : Bytes}
    (hcs : Json.read (Json.list Cluster.decoder) body = .ok cs)
    (hds : Json.read (Json.list Cluster.decoder) body' = .ok ds)
    (halike : cs.map withoutPassword = ds.map withoutPassword) :
    DifferInPasswords url cs ds (d.publish url (.answer 200 (some body) none)).transport
      (d.publish url (.answer 200 (some body') none)).transport := by
  apply of_answers
  · intro u hu
    rw [d.answer_publish_of_ne hu, d.answer_publish_of_ne hu]
  · exact d.answer_publish url 200 (some body) none
  · exact d.answer_publish url 200 (some body') none
  · exact hcs
  · exact hds
  · exact halike

variable {identifier : String}

theorem lookup_clusters (h : DifferInPasswords url cs ds t t') (s : Settings) (bucket : String) :
    List.map withoutPassword <$> Lookup.clusters s t bucket =
      List.map withoutPassword <$> Lookup.clusters s t' bucket := by
  rw [Lookup.clusters, Lookup.clusters]
  cases s.bucketUrl bucket with
  | error e => rfl
  | ok there =>
    have hdocument : List.map withoutPassword <$> Lookup.document t (Json.list Cluster.decoder)
          (.clustersCallFailed there) ⟨there, s.masterKey⟩ =
        List.map withoutPassword <$> Lookup.document t' (Json.list Cluster.decoder)
          (.clustersCallFailed there) ⟨there, s.masterKey⟩ := by
      by_cases hu : there = url
      · obtain ⟨own, own', body, body', seen, events, ht, ht', hcs, hds⟩ := h.there ⟨there, s.masterKey⟩ hu
        rw [Lookup.document_of_fit ht hcs, Lookup.document_of_fit ht' hds, Attempt.map_mk_ok, Attempt.map_mk_ok,
          h.alike]
      · rw [Lookup.document_congr (h.elsewhere ⟨there, s.masterKey⟩ hu)]
    simp only [Attempt.ofExcept_ok, pure_bind, map_bind, hdocument]

theorem flow (h : DifferInPasswords url cs ds t t') (hflow : s.flowUrl id ≠ .ok url) (apiKey : String) :
    Resolution.flow s t apiKey id = Resolution.flow s t' apiKey id :=
  Resolution.flow_congr h.elsewhere hflow apiKey

theorem clusters (h : DifferInPasswords url cs ds t t') (s : Settings) (bucket : String) :
    List.map withoutPassword <$> Resolution.clusters s t bucket =
      List.map withoutPassword <$> Resolution.clusters s t' bucket := by
  rw [Resolution.clusters, Resolution.clusters, map_bind, map_bind]
  simp only [Attempt.map_mapFailure, h.lookup_clusters]

/-- The bucket of a flow is the same, and so are the clusters in it up to their passwords. -/
theorem bucketClusters (h : DifferInPasswords url cs ds t t') (hflow : s.flowUrl id ≠ .ok url) (apiKey : String) :
    Prod.map (fun b : String => b) (List.map withoutPassword) <$> Resolution.bucketClusters s t apiKey id =
      Prod.map (fun b : String => b) (List.map withoutPassword) <$> Resolution.bucketClusters s t' apiKey id := by
  have hlisted (b : String) :
      Prod.map (fun b : String => b) (List.map withoutPassword) <$> Prod.mk b <$> Resolution.clusters s t b =
        Prod.map (fun b : String => b) (List.map withoutPassword) <$> Prod.mk b <$> Resolution.clusters s t' b := by
    rw [Functor.map_map, Functor.map_map]
    exact map_eq_of_factorsThrough (fun cs ds hab => congrArg (Prod.mk b) hab) (h.clusters s b)
  simp only [Resolution.bucketClusters, h.flow hflow, map_bind, bind_pure_comp, hlisted]

theorem resolve (h : DifferInPasswords url cs ds t t') (hflow : s.flowUrl id ≠ .ok url) (hne : identifier ≠ "")
    (apiKey : String) :
    withoutPassword <$> Resolution.resolve s t apiKey id identifier =
      withoutPassword <$> Resolution.resolve s t' apiKey id identifier := by
  rw [Resolution.resolve, Resolution.resolve, map_bind, map_bind]
  refine bind_eq_of_factorsThrough ?_ (h.bucketClusters hflow apiKey)
  rintro ⟨b, cs⟩ ⟨b', ds⟩ hab
  obtain ⟨rfl, hcs⟩ := Prod.mk.inj hab
  have hblank : (select cs identifier).isBlank = (select ds identifier).isBlank :=
    isBlank_select_factorsThrough hne hcs
  have hselect : (select cs identifier).withoutPassword = (select ds identifier).withoutPassword :=
    select_factorsThrough identifier hcs
  simp only [map_bind, map_pure, hblank, hselect]

theorem resolveStrict (h : DifferInPasswords url cs ds t t') (hflow : s.flowUrl id ≠ .ok url)
    (apiKey identifier : String) :
    withoutPassword <$> Resolution.resolveStrict s t apiKey id identifier =
      withoutPassword <$> Resolution.resolveStrict s t' apiKey id identifier := by
  rw [Resolution.resolveStrict, Resolution.resolveStrict, map_bind, map_bind]
  refine bind_eq_of_factorsThrough ?_ (h.bucketClusters hflow apiKey)
  rintro ⟨b, cs⟩ ⟨b', ds⟩ hab
  obtain ⟨rfl, hcs⟩ := Prod.mk.inj hab
  have hselect : withoutPassword <$> (Attempt.ofExcept (selectStrict cs b identifier) : Attempt ρ _ _) =
      withoutPassword <$> Attempt.ofExcept (selectStrict ds b identifier) := by
    rw [Attempt.map_ofExcept, Attempt.map_ofExcept]
    exact congrArg Attempt.ofExcept (selectStrict_factorsThrough b identifier hcs)
  simp only [map_bind, map_pure]
  refine bind_eq_of_factorsThrough ?_ hselect
  intro c d hcd
  simp only [hcd]

/-- What a resolution brings does not depend on passwords, not even where any name will do. -/
theorem resolve_result (h : DifferInPasswords url cs ds t t') (hflow : s.flowUrl id ≠ .ok url)
    (apiKey identifier : String) :
    withoutPassword <$> (Resolution.resolve s t apiKey id identifier).result =
      withoutPassword <$> (Resolution.resolve s t' apiKey id identifier).result := by
  have hboth := congrArg Attempt.result (h.bucketClusters hflow apiKey)
  rw [Attempt.map_result, Attempt.map_result] at hboth
  rw [Resolution.resolve_result, Resolution.resolve_result, Functor.map_map, Functor.map_map]
  refine map_eq_of_factorsThrough ?_ hboth
  rintro ⟨b, cs⟩ ⟨b', ds⟩ hab
  exact select_factorsThrough identifier (Prod.mk.inj hab).2

end DifferInPasswords

namespace CommandLine

open Cluster

variable {strict : Bool} {cluster : String}

/-- The record that a command line shows. -/
def shownCluster (s : Settings) (t : Transport ρ) (apiKey id cluster : String) (strict : Bool) :
    Except LookupFailure Cluster :=
  (if strict then Resolution.resolveStrict s t apiKey id cluster else Resolution.resolve s t apiKey id cluster).result

theorem shownCluster_alike (h : DifferInPasswords url cs ds t t') (hflow : s.flowUrl id ≠ .ok url)
    (apiKey cluster : String) (strict : Bool) :
    withoutPassword <$> shownCluster s t apiKey id cluster strict =
      withoutPassword <$> shownCluster s t' apiKey id cluster strict := by
  cases strict with
  | false => exact h.resolve_result hflow apiKey cluster
  | true =>
    have hstrict := congrArg Attempt.result (h.resolveStrict hflow apiKey cluster)
    rwa [Attempt.map_result, Attempt.map_result] at hstrict

/-- A list that is shown has no passwords. -/
theorem perform_clusters (h : DifferInPasswords url cs ds t t') (s : Settings) (bucket : String) :
    (Action.clusters bucket).perform s t = (Action.clusters bucket).perform s t' := by
  rw [Action.perform, Action.perform]
  refine bind_eq_of_factorsThrough ?_ (h.clusters s bucket)
  intro cs ds hcs
  have hlength : cs.length = ds.length := by simpa using congrArg List.length hcs
  have hsummaries : cs.map summary = ds.map summary := by
    rw [← summaries_withoutPassword cs, hcs, summaries_withoutPassword]
  simp only [hlength, hsummaries]

theorem perform_resolve_result (s : Settings) (t : Transport ρ) (apiKey id cluster : String) (strict : Bool) :
    ((Action.resolve apiKey id cluster strict false).perform s t).result =
      (fun c => c.redacted.toValue) <$> shownCluster s t apiKey id cluster strict := by
  cases strict with
  | false => exact Attempt.map_result _ _
  | true => exact Attempt.map_result _ _

theorem redacted_alike {x y : Except LookupFailure Cluster} (h : withoutPassword <$> x = withoutPassword <$> y)
    (hp : ∀ c d, x = .ok c → y = .ok d → (c.password = "" ↔ d.password = "")) :
    (fun c => c.redacted.toValue) <$> x = (fun c => c.redacted.toValue) <$> y := by
  cases x with
  | error e =>
    cases y with
    | error e' => cases h; rfl
    | ok d => cases h
  | ok c =>
    cases y with
    | error e' => cases h
    | ok d =>
      have hsame : c.withoutPassword = d.withoutPassword := Except.ok.inj h
      have hredacted : c.redacted = d.redacted := redacted_eq hsame (hp c d rfl rfl)
      exact congrArg (fun c : Cluster => Except.ok c.toValue) hredacted

/-- What is printed depends on nothing but the document, or that there is none. -/
theorem printed_congr {i : Invocation} {f : Log.Filter}
    (h : (i.action.perform i.settings t).result = (i.action.perform i.settings t').result) :
    (i.run f t).printed = (i.run f t').printed := by
  rw [Invocation.run, Invocation.run, h]
  cases (i.action.perform i.settings t').result with
  | ok v => rfl
  | error e => rfl

end CommandLine

/-- Two resolutions that go the same way, and bring the same record up to its password. -/
structure SameUpToPassword (x y : Attempt ρ LookupFailure Cluster) : Prop where
  seen : x.seen = y.seen
  events : x.events = y.events
  result : Cluster.withoutPassword <$> x.result = Cluster.withoutPassword <$> y.result

theorem SameUpToPassword.of_map_eq {x y : Attempt ρ LookupFailure Cluster}
    (h : Cluster.withoutPassword <$> x = Cluster.withoutPassword <$> y) : SameUpToPassword x y where
  seen := by simpa using congrArg Attempt.seen h
  events := by simpa using congrArg Attempt.events h
  result := by simpa using congrArg Attempt.result h

open CommandLine

/-- No lookup that succeeds tells a password. What is sent and reported does not depend on the passwords that a bucket
lists, and neither does what is printed, unless it is asked for: a list that is shown has none, and of the one in a
record that is shown no more is told than whether it is empty. -/
theorem lookups_hide_passwords (s : Settings) (bucket url : String) (t t' : Transport ρ) (cs ds : List Cluster)
    (hurl : s.bucketUrl bucket = .ok url) (h : DifferInPasswords url cs ds t t') :
    (s.flowHost = s.clusterHost → ∀ id, s.flowUrl id ≠ .ok url) ∧
    (∀ apiKey id, s.flowUrl id ≠ .ok url → ∀ identifier, identifier ≠ "" →
      SameUpToPassword (Resolution.resolve s t apiKey id identifier) (Resolution.resolve s t' apiKey id identifier) ∧
      SameUpToPassword (Resolution.resolveStrict s t apiKey id identifier)
        (Resolution.resolveStrict s t' apiKey id identifier)) ∧
    ∀ e args i, Invocation.read e args = .ok i → i.settings = s →
      (∀ b, i.action = .clusters b → run e args t = run e args t') ∧
      ∀ apiKey id cluster strict showPassword, i.action = .resolve apiKey id cluster strict showPassword →
        "--show-password" ∉ args → s.flowUrl id ≠ .ok url →
        (∀ c d, shownCluster s t apiKey id cluster strict = .ok c →
          shownCluster s t' apiKey id cluster strict = .ok d → (c.password = "" ↔ d.password = "")) →
        (run e args t).printed = (run e args t').printed := by
  refine ⟨?_, ?_, ?_⟩
  · intro hhost id hflow
    exact Settings.flowUrl_ne_bucketUrl hhost hflow hurl
  · intro apiKey id hflow identifier hne
    exact ⟨.of_map_eq (h.resolve hflow hne apiKey), .of_map_eq (h.resolveStrict hflow apiKey identifier)⟩
  · rintro e args i hread rfl
    rw [run, run, hread]
    refine ⟨?_, ?_⟩
    · intro b hb
      dsimp only
      rw [Invocation.run, Invocation.run, hb, perform_clusters h]
    · intro apiKey id cluster strict showPassword hresolve hquiet hflow hp
      have hshow : showPassword = false :=
        eq_false_of_ne_true fun h => hquiet ((Invocation.flags_of_read hread hresolve).2.mp h)
      subst hshow
      apply printed_congr
      rw [hresolve, perform_resolve_result, perform_resolve_result]
      exact redacted_alike (shownCluster_alike h hflow apiKey cluster strict) hp

/-- A cluster with a password. -/
def guarded (password : String) : Cluster := { Cluster.blank with identifier := "c", password := password }

def guardedBody (password : String) : Bytes :=
  Text.Utf8.encode ("[\x7b\"identifier\":\"c\",\"password\":\"" ++ password ++ "\"\x7d]")

/-- A directory with a flow whose bucket has no page. -/
def guardedFlow : Directory where
  routes := [("https://hub/flows/f",
    .answer 200 (some (Text.Utf8.encode "\x7b\"team\":\x7b\"bucket_uuid\":\"b\"\x7d\x7d")) none)]

/-- The directory with a cluster in the bucket of the flow. -/
def guardedDirectory (password : String) : Directory :=
  guardedFlow.publish "https://hub/api/bucket/b/clusters" (.answer 200 (some (guardedBody password)) none)

def hub : Settings := .of "hub" "hub" "master"

def hubArguments : List String :=
  ["--flow-host=hub", "--cluster-host=hub", "--master-api-key=master", "resolve", "--api-key=key", "--flow=f",
    "--cluster=c"]

theorem lookups_hide_passwords_guarded :
    hub.bucketUrl "b" = .ok "https://hub/api/bucket/b/clusters" ∧
    DifferInPasswords "https://hub/api/bucket/b/clusters" [guarded "one"] [guarded "two"]
      (guardedDirectory "one").transport (guardedDirectory "two").transport ∧
    (Resolution.resolve hub (guardedDirectory "one").transport "key" "f" "c").result = .ok (guarded "one") ∧
    SameUpToPassword (Resolution.resolve hub (guardedDirectory "one").transport "key" "f" "c")
      (Resolution.resolve hub (guardedDirectory "two").transport "key" "f" "c") ∧
    (run ⟨[]⟩ hubArguments (guardedDirectory "one").transport).exit = 0 ∧
    (run ⟨[]⟩ hubArguments (guardedDirectory "one").transport).printed =
      (run ⟨[]⟩ hubArguments (guardedDirectory "two").transport).printed := by
  have hurl : hub.bucketUrl "b" = .ok "https://hub/api/bucket/b/clusters" := by decide +kernel
  have hdiffer : DifferInPasswords "https://hub/api/bucket/b/clusters" [guarded "one"] [guarded "two"]
      (guardedDirectory "one").transport (guardedDirectory "two").transport := by
    apply DifferInPasswords.of_publish
    · decide +kernel
    · decide +kernel
    · decide +kernel
  have hread : Invocation.read ⟨[]⟩ hubArguments =
      .ok ⟨hub, false, false, .resolve "key" "f" "c" false false⟩ := by decide +kernel
  have hone : shownCluster hub (guardedDirectory "one").transport "key" "f" "c" false = .ok (guarded "one") := by
    decide +kernel
  have htwo : shownCluster hub (guardedDirectory "two").transport "key" "f" "c" false = .ok (guarded "two") := by
    decide +kernel
  obtain ⟨hhost, hresolve, hrun⟩ :=
    lookups_hide_passwords hub "b" "https://hub/api/bucket/b/clusters" _ _ _ _ hurl hdiffer
  refine ⟨hurl, hdiffer, hone, (hresolve "key" "f" (hhost rfl "f") "c" (by decide)).1, by decide +kernel, ?_⟩
  apply (hrun ⟨[]⟩ hubArguments _ hread rfl).2 "key" "f" "c" false false rfl (by decide) (hhost rfl "f")
  intro c d hc hd
  rw [hone] at hc
  rw [htwo] at hd
  cases hc
  cases hd
  decide

end FlowCluster
