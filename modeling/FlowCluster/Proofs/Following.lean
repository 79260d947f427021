import FlowCluster.Proofs.Confinement
import Mathlib.Data.List.Forall2

/-! # Attempts that go the same way

Two attempts over different transports go the same way when they end alike, report alike, and what is seen of the one
corresponds to what is seen of the other. It is enough that the transports do so for the requests that are sent, so
this may depend on what those are. Every lookup, and so every call, follows its transport. -/

namespace FlowCluster

variable {ρ ρ' ε ε' α β : Type}

namespace Attempt

/-- If what is seen of `y` is as `P` says, then `x` ends and reports as `y` does, and `R` relates what is seen of both
in order. -/
def Follows (P : ρ' → Prop) (R : ρ → ρ' → Prop) (x : Attempt ρ ε α) (y : Attempt ρ' ε α) : Prop :=
  (∀ q ∈ y.seen, P q) → x.result = y.result ∧ x.events = y.events ∧ List.Forall₂ R x.seen y.seen

variable {P : ρ' → Prop} {R : ρ → ρ' → Prop}

theorem follows_ofExcept (r : Except ε α) : Follows P R (ofExcept r) (ofExcept r) :=
  fun _ => ⟨rfl, rfl, .nil⟩

theorem follows_report (e : Event) : Follows P R (report e : Attempt ρ ε Unit) (report e) :=
  fun _ => ⟨rfl, rfl, .nil⟩

theorem Follows.bind {x : Attempt ρ ε α} {y : Attempt ρ' ε α} {f : α → Attempt ρ ε β} {g : α → Attempt ρ' ε β}
    (h : Follows P R x y) (hf : ∀ a, y.result = .ok a → Follows P R (f a) (g a)) : Follows P R (x >>= f) (y >>= g) := by
  intro hP
  rw [bind_seen] at hP
  obtain ⟨hresult, hevents, hseen⟩ := h fun q hq => hP q (List.mem_append_left _ hq)
  cases hy : y.result with
  | error e =>
    rw [bind_of_error (hresult.trans hy), bind_of_error hy]
    exact ⟨rfl, hevents, hseen⟩
  | ok a =>
    rw [hy] at hP
    obtain ⟨hresult', hevents', hseen'⟩ := hf a hy fun q hq => hP q (List.mem_append_right _ hq)
    rw [bind_of_ok (hresult.trans hy), bind_of_ok hy]
    refine ⟨hresult', ?_, List.rel_append hseen hseen'⟩
    rw [hevents, hevents']

theorem Follows.map {x : Attempt ρ ε α} {y : Attempt ρ' ε α} (h : Follows P R x y) (g : α → β) :
    Follows P R (g <$> x) (g <$> y) := h.bind fun a _ => follows_ofExcept (.ok (g a))

theorem Follows.mapFailure {x : Attempt ρ ε α} {y : Attempt ρ' ε α} (h : Follows P R x y) (f : ε → ε') :
    Follows P R (x.mapFailure f) (y.mapFailure f) := by
  intro hP
  obtain ⟨hresult, hevents, hseen⟩ := h hP
  exact ⟨congrArg (Except.mapError f) hresult, hevents, hseen⟩

theorem Follows.reportFailure {x : Attempt ρ ε α} {y : Attempt ρ' ε α} (h : Follows P R x y) (event : ε → Event) :
    Follows P R (x.reportFailure event) (y.reportFailure event) := by
  intro hP
  rw [reportFailure_seen] at hP
  obtain ⟨hresult, hevents, hseen⟩ := h hP
  refine ⟨?_, ?_, ?_⟩
  · rw [reportFailure_result, reportFailure_result, hresult]
  · rw [reportFailure_events, reportFailure_events, hresult, hevents]
  · rw [reportFailure_seen, reportFailure_seen]
    exact hseen

end Attempt

open Attempt

variable {P : ρ' → Prop} {R : ρ → ρ' → Prop} {s s' : Settings} {t : Transport ρ} {t' : Transport ρ'}
  {apiKey apiKey' id bucket : String}

namespace Lookup

theorem follows_readBody (r : Response) : Follows P R (readBody r) (readBody r) := by
  unfold readBody
  intro _
  split
  · exact ⟨rfl, rfl, .nil⟩
  · split
    · exact ⟨rfl, rfl, .nil⟩
    · exact ⟨rfl, rfl, .nil⟩

theorem follows_decodeBody (decoder : Json.Decoder α) (url : String) (body : Bytes) :
    Follows P R (decodeBody decoder url body) (decodeBody decoder url body) := by
  unfold decodeBody
  intro _
  split
  · exact ⟨rfl, rfl, .nil⟩
  · exact ⟨rfl, rfl, .nil⟩

/-- A document is looked up alike if it is answered alike, whatever the keys. -/
theorem follows_document {url : String} (h : Follows P R (t.fetch ⟨url, apiKey⟩) (t'.fetch ⟨url, apiKey'⟩))
    (decoder : Json.Decoder α) (failed : CallFailure → Event) :
    Follows P R (document t decoder failed ⟨url, apiKey⟩) (document t' decoder failed ⟨url, apiKey'⟩) := by
  have hbody := (h.bind fun a _ => follows_readBody a).reportFailure failed
  exact hbody.bind fun body _ => follows_decodeBody decoder url body

theorem follows_flow (hurl : s.flowUrl id = s'.flowUrl id)
    (h : ∀ url, s'.flowUrl id = .ok url → Follows P R (t.fetch ⟨url, apiKey⟩) (t'.fetch ⟨url, apiKey'⟩)) :
    Follows P R (flow s t apiKey id) (flow s' t' apiKey' id) := by
  rw [flow, flow, hurl]
  apply (follows_ofExcept (s'.flowUrl id)).bind
  intro url hu
  apply (follows_report (.fetchingFlow url)).bind
  intro _ _
  exact follows_document (h url hu) Flow.decoder (.flowCallFailed url)

theorem follows_clusters (hurl : s.bucketUrl bucket = s'.bucketUrl bucket)
    (h : ∀ url, s'.bucketUrl bucket = .ok url →
      Follows P R (t.fetch ⟨url, s.masterKey⟩) (t'.fetch ⟨url, s'.masterKey⟩)) :
    Follows P R (clusters s t bucket) (clusters s' t' bucket) := by
  rw [clusters, clusters, hurl]
  apply (follows_ofExcept (s'.bucketUrl bucket)).bind
  intro url hu
  apply (follows_report (.fetchingClusters url)).bind
  intro _ _
  exact follows_document (h url hu) (Json.list Cluster.decoder) (.clustersCallFailed url)

end Lookup

namespace Resolution

theorem follows_flow (hcheck : s.checkFlow = s'.checkFlow)
    (h : Follows P R (Lookup.flow s t apiKey id) (Lookup.flow s' t' apiKey' id)) :
    Follows P R (flow s t apiKey id) (flow s' t' apiKey' id) := by
  rw [flow, flow, hcheck]
  apply (follows_ofExcept (s'.checkFlow.mapError LookupFailure.misconfigured)).bind
  intro _ _
  exact h.mapFailure LookupFailure.flow

theorem follows_clusters (hcheck : s.checkClusters = s'.checkClusters)
    (h : Follows P R (Lookup.clusters s t bucket) (Lookup.clusters s' t' bucket)) :
    Follows P R (clusters s t bucket) (clusters s' t' bucket) := by
  rw [clusters, clusters, hcheck]
  apply (follows_ofExcept (s'.checkClusters.mapError LookupFailure.misconfigured)).bind
  intro _ _
  exact h.mapFailure LookupFailure.clusters

theorem follows_bucketClusters (hflow : Follows P R (flow s t apiKey id) (flow s' t' apiKey' id))
    (hclusters : ∀ bucket, Follows P R (clusters s t bucket) (clusters s' t' bucket)) :
    Follows P R (bucketClusters s t apiKey id) (bucketClusters s' t' apiKey' id) := by
  apply hflow.bind
  intro f _
  apply (follows_report (.flowResolved id f.bucket f.team.slug)).bind
  intro _ _
  apply (hclusters f.bucket).bind
  intro cs _
  exact follows_ofExcept (.ok (f.bucket, cs))

theorem follows_resolve (h : Follows P R (bucketClusters s t apiKey id) (bucketClusters s' t' apiKey' id))
    (identifier : String) : Follows P R (resolve s t apiKey id identifier) (resolve s' t' apiKey' id identifier) := by
  apply h.bind
  rintro ⟨bucket, cs⟩ _
  apply (follows_report _).bind
  intro _ _
  exact follows_ofExcept (.ok (Selection.select cs identifier))

theorem follows_resolveStrict (h : Follows P R (bucketClusters s t apiKey id) (bucketClusters s' t' apiKey' id))
    (identifier : String) :
    Follows P R (resolveStrict s t apiKey id identifier) (resolveStrict s' t' apiKey' id identifier) := by
  apply h.bind
  rintro ⟨bucket, cs⟩ _
  apply (follows_ofExcept (Selection.selectStrict cs bucket identifier)).bind
  intro c _
  apply (follows_report (.resolved id bucket identifier)).bind
  intro _ _
  exact follows_ofExcept (.ok c)

end Resolution

namespace Step

/-- A call with another key of its caller. -/
def mapKey (f : String → String) : Step → Step
  | .resolve apiKey id cluster => .resolve (f apiKey) id cluster
  | .resolveStrict apiKey id cluster => .resolveStrict (f apiKey) id cluster
  | .flow apiKey id => .flow (f apiKey) id
  | .clusters bucket => .clusters bucket
  | .flowUnchecked apiKey id => .flowUnchecked (f apiKey) id
  | .clustersUnchecked bucket => .clustersUnchecked bucket

theorem mapKey_same (x : Step) : x.mapKey (fun key => key) = x := by
  cases x <;> rfl

/-- A call goes the way of its lookups, under settings that pass the same checks, whatever becomes of its key. -/
theorem follows_run_mapKey (hflowCheck : s.checkFlow = s'.checkFlow)
    (hclustersCheck : s.checkClusters = s'.checkClusters) {x : Step} {f : String → String}
    (hflow : ∀ apiKey id, x.flowCall? = some (apiKey, id) →
      Follows P R (Lookup.flow s t apiKey id) (Lookup.flow s' t' (f apiKey) id))
    (hclusters : ∀ bucket, Follows P R (Lookup.clusters s t bucket) (Lookup.clusters s' t' bucket)) :
    Follows P R (x.run s t) ((x.mapKey f).run s' t') := by
  have hchecked (apiKey id : String) (hx : x.flowCall? = some (apiKey, id)) :
      Follows P R (Resolution.flow s t apiKey id) (Resolution.flow s' t' (f apiKey) id) :=
    Resolution.follows_flow hflowCheck (hflow apiKey id hx)
  have hlisted (bucket : String) : Follows P R (Resolution.clusters s t bucket) (Resolution.clusters s' t' bucket) :=
    Resolution.follows_clusters hclustersCheck (hclusters bucket)
  cases x with
  | resolve apiKey id cluster =>
    have hboth := Resolution.follows_bucketClusters (hchecked apiKey id rfl) hlisted
    exact ((Resolution.follows_resolve hboth cluster).map Answer.cluster).mapFailure StepFailure.lookup
  | resolveStrict apiKey id cluster =>
    have hboth := Resolution.follows_bucketClusters (hchecked apiKey id rfl) hlisted
    exact ((Resolution.follows_resolveStrict hboth cluster).map Answer.cluster).mapFailure StepFailure.lookup
  | flow apiKey id => exact ((hchecked apiKey id rfl).map Answer.flow).mapFailure StepFailure.lookup
  | clusters bucket => exact ((hlisted bucket).map Answer.clusters).mapFailure StepFailure.lookup
  | flowUnchecked apiKey id => exact ((hflow apiKey id rfl).map Answer.flow).mapFailure StepFailure.call
  | clustersUnchecked bucket => exact ((hclusters bucket).map Answer.clusters).mapFailure StepFailure.call

theorem follows_run (hflowCheck : s.checkFlow = s'.checkFlow) (hclustersCheck : s.checkClusters = s'.checkClusters)
    {x : Step}
    (hflow : ∀ apiKey id, x.flowCall? = some (apiKey, id) →
      Follows P R (Lookup.flow s t apiKey id) (Lookup.flow s' t' apiKey id))
    (hclusters : ∀ bucket, Follows P R (Lookup.clusters s t bucket) (Lookup.clusters s' t' bucket)) :
    Follows P R (x.run s t) (x.run s' t') := by
  have hrun : Follows P R (x.run s t) ((x.mapKey fun key => key).run s' t') :=
    follows_run_mapKey hflowCheck hclustersCheck hflow hclusters
  rwa [mapKey_same] at hrun

end Step
end FlowCluster
