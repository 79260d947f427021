import FlowCluster.Proofs.Course

/-! # What a transport does in a call

A call over any transport asks what it would ask of a directory in memory that gives the same answers. What is seen of
the call is what the transport sees of these requests, one after another, and so are the requests that the log says were
not sent: lookups report nothing of that kind. -/

namespace FlowCluster

variable {ρ ε ε' α β : Type}

/-- Whether an event tells of a request that was not sent. -/
def Event.isUnsent (e : Event) : Bool := e.message = "Upstream request failed"

/-- The answers of a transport, as a directory in memory gives them. -/
def Transport.answers (t : Transport ρ) (r : Request) : Except CallFailure Response := (t.fetch r).result

/-- An attempt over a transport does what another asks of a directory in memory. -/
structure Attempt.Sends (t : Transport ρ) (x : Attempt ρ ε α) (y : Attempt Request ε α) : Prop where
  result : x.result = y.result
  seen : x.seen = y.seen.flatMap fun r => (t.fetch r).seen
  unsent : x.events.filter (·.isUnsent) = y.seen.flatMap fun r => (t.fetch r).events.filter (·.isUnsent)

namespace Attempt.Sends

variable {t : Transport ρ} {x : Attempt ρ ε α} {y : Attempt Request ε α}

theorem ofExcept (r : Except ε α) : Sends t (.ofExcept r) (.ofExcept r) := ⟨rfl, rfl, rfl⟩

theorem report {e : Event} (h : e.isUnsent = false) :
    Sends t (.report e : Attempt ρ ε Unit) (.report e) := ⟨rfl, rfl, List.filter_cons_of_neg (by simp [h])⟩

theorem mapFailure (h : Sends t x y) (f : ε → ε') : Sends t (x.mapFailure f) (y.mapFailure f) :=
  ⟨congrArg (Except.mapError f) h.result, h.seen, h.unsent⟩

theorem bind {k : α → Attempt ρ ε β} {l : α → Attempt Request ε β} (h : Sends t x y)
    (hk : ∀ a, Sends t (k a) (l a)) : Sends t (x >>= k) (y >>= l) := by
  obtain ⟨result, seen, events⟩ := x
  obtain ⟨hresult, hseen, hunsent⟩ := h
  dsimp only at hresult hseen hunsent
  cases result with
  | error e =>
    rw [bind_of_error rfl, bind_of_error hresult.symm]
    exact ⟨rfl, hseen, hunsent⟩
  | ok a =>
    obtain ⟨hrest, hseen', hunsent'⟩ := hk a
    rw [bind_of_ok rfl, bind_of_ok hresult.symm]
    refine ⟨hrest, ?_, ?_⟩
    · rw [hseen, hseen', List.flatMap_append]
    · rw [List.filter_append, hunsent, hunsent', List.flatMap_append]

theorem map (h : Sends t x y) (g : α → β) : Sends t (g <$> x) (g <$> y) := by
  rw [← bind_pure_comp, ← bind_pure_comp]
  exact h.bind fun a => ofExcept (.ok (g a))

end Attempt.Sends

open Attempt

variable {s : Settings} {t : Transport ρ} {apiKey id bucket identifier : String}

namespace Lookup

theorem sends_document (decoder : Json.Decoder α) {failed : CallFailure → Event}
    (hf : ∀ e, (failed e).isUnsent = false) (r : Request) :
    Sends t (document t decoder failed r) (document (.answering t.answers) decoder failed r) := by
  rw [document_eq, document_eq]
  have hnone : ∀ e ∈ aftermath decoder failed r.url (t.fetch r).result, ¬e.isUnsent = true := by
    refine forall_mem_aftermath ?_ ?_ ?_ decoder r.url _
    · exact fun _ _ _ => Bool.false_ne_true
    · exact fun _ _ _ => Bool.false_ne_true
    · intro e
      simp [hf]
  refine ⟨rfl, (List.append_nil _).symm, ?_⟩
  rw [List.filter_append, List.filter_eq_nil_iff.mpr hnone]
  rfl

theorem sends_flow : Sends t (flow s t apiKey id) (flow s (.answering t.answers) apiKey id) :=
  (Sends.ofExcept _).bind fun _ => (Sends.report rfl).bind fun _ => sends_document Flow.decoder (fun _ => rfl) _

theorem sends_clusters : Sends t (clusters s t bucket) (clusters s (.answering t.answers) bucket) :=
  (Sends.ofExcept _).bind fun _ =>
    (Sends.report rfl).bind fun _ => sends_document (Json.list Cluster.decoder) (fun _ => rfl) _

end Lookup

namespace Resolution

theorem sends_flow : Sends t (flow s t apiKey id) (flow s (.answering t.answers) apiKey id) :=
  (Sends.ofExcept _).bind fun _ => Lookup.sends_flow.mapFailure _

theorem sends_clusters : Sends t (clusters s t bucket) (clusters s (.answering t.answers) bucket) :=
  (Sends.ofExcept _).bind fun _ => Lookup.sends_clusters.mapFailure _

theorem sends_bucketClusters :
    Sends t (bucketClusters s t apiKey id) (bucketClusters s (.answering t.answers) apiKey id) :=
  sends_flow.bind fun _ => (Sends.report rfl).bind fun _ => sends_clusters.bind fun cs => Sends.ofExcept (.ok (_, cs))

theorem sends_resolve :
    Sends t (resolve s t apiKey id identifier) (resolve s (.answering t.answers) apiKey id identifier) := by
  refine sends_bucketClusters.bind ?_
  rintro ⟨bucket, cs⟩
  refine Sends.bind (.report ?_) fun _ => Sends.ofExcept (.ok _)
  split <;> rfl

theorem sends_resolveStrict :
    Sends t (resolveStrict s t apiKey id identifier) (resolveStrict s (.answering t.answers) apiKey id identifier) := by
  refine sends_bucketClusters.bind ?_
  rintro ⟨bucket, cs⟩
  exact (Sends.ofExcept _).bind fun _ => (Sends.report rfl).bind fun _ => Sends.ofExcept (.ok _)

end Resolution

namespace Step

/-- What a call asks for, over a transport. -/
def requests (s : Settings) (t : Transport ρ) (x : Step) : List Request := (x.run s (.answering t.answers)).seen

/-- A call over a transport does what it asks of a directory in memory with the same answers. -/
theorem sends_run (x : Step) : Attempt.Sends t (x.run s t) (x.run s (.answering t.answers)) := by
  cases x with
  | resolve apiKey id identifier => exact (Resolution.sends_resolve.map _).mapFailure _
  | resolveStrict apiKey id identifier => exact (Resolution.sends_resolveStrict.map _).mapFailure _
  | flow apiKey id => exact (Resolution.sends_flow.map _).mapFailure _
  | clusters bucket => exact (Resolution.sends_clusters.map _).mapFailure _
  | flowUnchecked apiKey id => exact (Lookup.sends_flow.map _).mapFailure _
  | clustersUnchecked bucket => exact (Lookup.sends_clusters.map _).mapFailure _

end Step

end FlowCluster
