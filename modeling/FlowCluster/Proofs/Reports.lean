import FlowCluster.Proofs.Exchange
import FlowCluster.Resolution

/-! # What lookups report

Up to the list of clusters, a resolution reports nothing above the level of debugging by itself: whatever is louder
comes from the transport. -/

namespace FlowCluster

variable {ρ ε ε' α β : Type}

namespace Attempt

/-- Every event of an attempt is as `P` says. -/
def Reports (P : Event → Prop) (x : Attempt ρ ε α) : Prop := ∀ e ∈ x.events, P e

variable {P : Event → Prop}

theorem reports_ofExcept (r : Except ε α) : Reports P (ofExcept r : Attempt ρ ε α) := by
  intro e he
  cases he

theorem reports_report {e : Event} (h : P e) : Reports P (report e : Attempt ρ ε Unit) := by
  intro e' he
  rwa [List.mem_singleton.mp he]

theorem Reports.bind {x : Attempt ρ ε α} {f : α → Attempt ρ ε β} (hx : Reports P x) (hf : ∀ a, Reports P (f a)) :
    Reports P (x >>= f) := by
  intro e he
  rw [bind_events] at he
  rcases List.mem_append.mp he with he | he
  · exact hx e he
  · split at he
    · next a _ => exact hf a e he
    · cases he

theorem Reports.reportFailure {x : Attempt ρ ε α} {event : ε → Event} (hx : Reports P x) (he : ∀ e, P (event e)) :
    Reports P (x.reportFailure event) := by
  intro e hm
  rw [reportFailure_events] at hm
  rcases List.mem_append.mp hm with hm | hm
  · exact hx e hm
  · split at hm
    · cases hm
    · next cause _ => rw [List.mem_singleton.mp hm]; exact he cause

theorem Reports.mapFailure {x : Attempt ρ ε α} (hx : Reports P x) (f : ε → ε') : Reports P (x.mapFailure f) := hx

end Attempt

open Attempt

variable {t : Transport ρ} {P : Event → Prop}

namespace Lookup

theorem reports_readBody (h : ∀ e, e.level = .debug → P e) (r : Response) :
    Reports P (readBody r : Attempt ρ CallFailure Bytes) := by
  rw [readBody]
  split
  · exact reports_ofExcept _
  · split
    · exact reports_ofExcept _
    · intro e he
      rw [List.mem_singleton.mp he]
      exact h _ rfl

theorem reports_decodeBody (h : ∀ e, e.level = .debug → P e) (decoder : Json.Decoder α) (url : String) (body : Bytes) :
    Reports P (decodeBody decoder url body : Attempt ρ CallFailure α) := by
  rw [decodeBody]
  split
  · exact reports_ofExcept _
  · intro e he
    rw [List.mem_singleton.mp he]
    exact h _ rfl

theorem reports_document (h : ∀ e, e.level = .debug → P e) (ht : ∀ r, Reports P (t.fetch r)) (decoder : Json.Decoder α)
    {failed : CallFailure → Event} (hf : ∀ e, (failed e).level = .debug) (r : Request) :
    Reports P (document t decoder failed r) := by
  have hbody : Reports P (do readBody (← t.fetch r) : Attempt ρ CallFailure Bytes) :=
    (ht r).bind fun a => reports_readBody h a
  exact (hbody.reportFailure fun e => h _ (hf e)).bind fun body => reports_decodeBody h decoder r.url body

theorem reports_flow (h : ∀ e, e.level = .debug → P e) (ht : ∀ r, Reports P (t.fetch r)) (s : Settings)
    (apiKey id : String) : Reports P (flow s t apiKey id) :=
  (reports_ofExcept _).bind fun _ => (reports_report (h _ rfl)).bind fun _ =>
    reports_document h ht Flow.decoder (fun _ => rfl) _

theorem reports_clusters (h : ∀ e, e.level = .debug → P e) (ht : ∀ r, Reports P (t.fetch r)) (s : Settings)
    (bucket : String) : Reports P (clusters s t bucket) :=
  (reports_ofExcept _).bind fun _ => (reports_report (h _ rfl)).bind fun _ =>
    reports_document h ht (Json.list Cluster.decoder) (fun _ => rfl) _

end Lookup

namespace Resolution

theorem reports_bucketClusters (h : ∀ e, e.level = .debug → P e) (ht : ∀ r, Reports P (t.fetch r)) (s : Settings)
    (apiKey id : String) : Reports P (bucketClusters s t apiKey id) := by
  have hflow : Reports P (flow s t apiKey id) :=
    (reports_ofExcept _).bind fun _ => (Lookup.reports_flow h ht s apiKey id).mapFailure LookupFailure.flow
  have hclusters : ∀ bucket, Reports P (clusters s t bucket) := fun bucket =>
    (reports_ofExcept _).bind fun _ => (Lookup.reports_clusters h ht s bucket).mapFailure LookupFailure.clusters
  exact hflow.bind fun f => (reports_report (h _ rfl)).bind fun _ => (hclusters f.bucket).bind fun _ =>
    reports_ofExcept _

end Resolution
end FlowCluster
