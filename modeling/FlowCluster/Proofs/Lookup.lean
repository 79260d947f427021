import FlowCluster.Proofs.Exchange
import FlowCluster.Resolution
import Mathlib.Tactic.SplitIfs

/-! # What lookups bring and send

The result of a lookup, and what directories see of it, as functions of the answers alone. Each equation opens one
function of the program and is stated for any transport. -/

namespace FlowCluster

variable {ρ α : Type}

namespace Lookup

/-- The body of an answer that is fit to be read. -/
def fitBody : Except CallFailure Response → Except CallFailure Bytes
  | .error e => .error e
  | .ok r =>
    match r.body with
    | none => .error (.emptyBody r.url r.status)
    | some body => if r.status = 200 then .ok body else .error (.status r.url r.status)

/-- The record in an answer to a request for `url`. -/
def fitRecord (decoder : Json.Decoder α) (url : String) (answer : Except CallFailure Response) :
    Except CallFailure α :=
  fitBody answer >>= fun body => (Json.read decoder body).mapError (.decode url)

/-- An answer is fit exactly if its status is 200 and it has a body. -/
theorem fitBody_eq_ok_iff {answer : Except CallFailure Response} {body : Bytes} :
    fitBody answer = .ok body ↔ ∃ own, answer = .ok ⟨own, 200, some body⟩ := by
  constructor
  · intro h
    cases answer with
    | error e => simp [fitBody] at h
    | ok r =>
      obtain ⟨own, status, body?⟩ := r
      cases body? with
      | none => simp [fitBody] at h
      | some b =>
        simp only [fitBody] at h
        split_ifs at h with hs
        rw [Except.ok.injEq] at h
        exact ⟨own, by rw [hs, h]⟩
  · rintro ⟨own, rfl⟩
    simp [fitBody]

theorem fitRecord_eq_ok_iff {decoder : Json.Decoder α} {url : String} {answer : Except CallFailure Response} {x : α} :
    fitRecord decoder url answer = .ok x ↔
      ∃ own body, answer = .ok ⟨own, 200, some body⟩ ∧ Json.read decoder body = .ok x := by
  constructor
  · intro h
    cases hb : fitBody answer with
    | error e => simp [fitRecord, hb, bind, Except.bind] at h
    | ok body =>
      obtain ⟨own, ha⟩ := fitBody_eq_ok_iff.mp hb
      refine ⟨own, body, ha, ?_⟩
      cases hr : Json.read decoder body with
      | error r => simp [fitRecord, hb, hr, bind, Except.bind, Except.mapError] at h
      | ok y => simpa [fitRecord, hb, hr, bind, Except.bind, Except.mapError] using h
  · rintro ⟨own, body, rfl, hr⟩
    simp [fitRecord, fitBody, hr, bind, Except.bind, Except.mapError]

private theorem readBody_result (r : Response) : (readBody r : Attempt ρ CallFailure Bytes).result = fitBody (.ok r) := by
  unfold readBody fitBody
  split
  · next h => simp [h]
  · next h =>
    simp only [h]
    split <;> rfl

private theorem readBody_seen (r : Response) : (readBody r : Attempt ρ CallFailure Bytes).seen = [] := by
  unfold readBody
  split
  · rfl
  · split <;> rfl

theorem decodeBody_result (decoder : Json.Decoder α) (url : String) (body : Bytes) :
    (decodeBody decoder url body : Attempt ρ CallFailure α).result = (Json.read decoder body).mapError (.decode url) := by
  rw [decodeBody]
  cases Json.read decoder body with
  | ok x => rfl
  | error r => rfl

private theorem decodeBody_seen (decoder : Json.Decoder α) (url : String) (body : Bytes) :
    (decodeBody decoder url body : Attempt ρ CallFailure α).seen = [] := by
  rw [decodeBody]
  split <;> rfl

theorem document_result (t : Transport ρ) (decoder : Json.Decoder α) (failed : CallFailure → Event) (r : Request) :
    (document t decoder failed r).result = fitRecord decoder r.url (t.fetch r).result := by
  simp only [document, Attempt.bind_result, Attempt.reportFailure_result, readBody_result, decodeBody_result,
    fitRecord]
  cases (t.fetch r).result <;> rfl

theorem document_seen (t : Transport ρ) (decoder : Json.Decoder α) (failed : CallFailure → Event) (r : Request) :
    (document t decoder failed r).seen = (t.fetch r).seen := by
  simp only [document, Attempt.bind_seen, Attempt.reportFailure_seen, readBody_seen, decodeBody_seen]
  split <;> split <;> simp

theorem flow_result (s : Settings) (t : Transport ρ) (apiKey id : String) :
    (flow s t apiKey id).result =
      s.flowUrl id >>= fun url => fitRecord Flow.decoder url (t.fetch ⟨url, apiKey⟩).result := by
  simp only [flow, Attempt.bind_result, Attempt.ofExcept_result, Attempt.report_result, document_result]
  rfl

theorem flow_eq_ok_iff {s : Settings} {t : Transport ρ} {apiKey id : String} {f : Flow} :
    (flow s t apiKey id).result = .ok f ↔
      ∃ url, s.flowUrl id = .ok url ∧ fitRecord Flow.decoder url (t.fetch ⟨url, apiKey⟩).result = .ok f := by
  rw [flow_result]
  cases s.flowUrl id <;> simp [bind, Except.bind]

theorem flow_seen (s : Settings) (t : Transport ρ) (apiKey id : String) :
    (flow s t apiKey id).seen = match s.flowUrl id with
      | .ok url => (t.fetch ⟨url, apiKey⟩).seen
      | .error _ => [] := by
  simp only [flow, Attempt.bind_seen, Attempt.ofExcept_result, Attempt.ofExcept_seen, Attempt.report_result,
    Attempt.report_seen, document_seen, List.nil_append]
  cases s.flowUrl id <;> rfl

theorem clusters_result (s : Settings) (t : Transport ρ) (bucket : String) :
    (clusters s t bucket).result =
      s.bucketUrl bucket >>= fun url => fitRecord (Json.list Cluster.decoder) url (t.fetch ⟨url, s.masterKey⟩).result := by
  simp only [clusters, Attempt.bind_result, Attempt.ofExcept_result, Attempt.report_result, document_result]
  rfl

theorem clusters_eq_ok_iff {s : Settings} {t : Transport ρ} {bucket : String} {cs : List Cluster} :
    (clusters s t bucket).result = .ok cs ↔ ∃ url, s.bucketUrl bucket = .ok url ∧
      fitRecord (Json.list Cluster.decoder) url (t.fetch ⟨url, s.masterKey⟩).result = .ok cs := by
  rw [clusters_result]
  cases s.bucketUrl bucket <;> simp [bind, Except.bind]

theorem clusters_seen (s : Settings) (t : Transport ρ) (bucket : String) :
    (clusters s t bucket).seen = match s.bucketUrl bucket with
      | .ok url => (t.fetch ⟨url, s.masterKey⟩).seen
      | .error _ => [] := by
  simp only [clusters, Attempt.bind_seen, Attempt.ofExcept_result, Attempt.ofExcept_seen, Attempt.report_result,
    Attempt.report_seen, document_seen, List.nil_append]
  cases s.bucketUrl bucket <;> rfl

end Lookup

theorem error_of_map {ε β : Type} {g : α → β} {x : Except ε α} {e : ε} (h : g <$> x = .error e) : x = .error e := by
  cases x with
  | ok a => cases h
  | error e' =>
    cases h
    rfl

namespace Resolution

theorem flow_result (s : Settings) (t : Transport ρ) (apiKey id : String) :
    (flow s t apiKey id).result =
      s.checkFlow.mapError .misconfigured >>= fun _ => (Lookup.flow s t apiKey id).result.mapError .flow := by
  simp only [flow, Attempt.bind_result, Attempt.ofExcept_result, Attempt.mapFailure_result]

theorem flow_eq_ok_iff {s : Settings} {t : Transport ρ} {apiKey id : String} {f : Flow} :
    (flow s t apiKey id).result = .ok f ↔ s.checkFlow = .ok () ∧ (Lookup.flow s t apiKey id).result = .ok f := by
  rw [flow_result]
  cases s.checkFlow <;> cases (Lookup.flow s t apiKey id).result <;> simp [bind, Except.bind, Except.mapError]

theorem flow_seen (s : Settings) (t : Transport ρ) (apiKey id : String) :
    (flow s t apiKey id).seen = match s.checkFlow with
      | .ok _ => (Lookup.flow s t apiKey id).seen
      | .error _ => [] := by
  simp only [flow, Attempt.bind_seen, Attempt.ofExcept_result, Attempt.ofExcept_seen, Attempt.mapFailure_seen,
    List.nil_append]
  cases s.checkFlow <;> rfl

theorem clusters_result (s : Settings) (t : Transport ρ) (bucket : String) :
    (clusters s t bucket).result =
      s.checkClusters.mapError .misconfigured >>= fun _ => (Lookup.clusters s t bucket).result.mapError .clusters := by
  simp only [clusters, Attempt.bind_result, Attempt.ofExcept_result, Attempt.mapFailure_result]

theorem clusters_eq_ok_iff {s : Settings} {t : Transport ρ} {bucket : String} {cs : List Cluster} :
    (clusters s t bucket).result = .ok cs ↔
      s.checkClusters = .ok () ∧ (Lookup.clusters s t bucket).result = .ok cs := by
  rw [clusters_result]
  cases s.checkClusters <;> cases (Lookup.clusters s t bucket).result <;> simp [bind, Except.bind, Except.mapError]

theorem clusters_seen (s : Settings) (t : Transport ρ) (bucket : String) :
    (clusters s t bucket).seen = match s.checkClusters with
      | .ok _ => (Lookup.clusters s t bucket).seen
      | .error _ => [] := by
  simp only [clusters, Attempt.bind_seen, Attempt.ofExcept_result, Attempt.ofExcept_seen, Attempt.mapFailure_seen,
    List.nil_append]
  cases s.checkClusters <;> rfl

theorem bucketClusters_result (s : Settings) (t : Transport ρ) (apiKey id : String) :
    (bucketClusters s t apiKey id).result =
      (flow s t apiKey id).result >>= fun f => (f.bucket, ·) <$> (clusters s t f.bucket).result := by
  simp only [bucketClusters, Attempt.bind_result, Attempt.report_result, Attempt.pure_result]
  rfl

theorem bucketClusters_eq_ok_iff {s : Settings} {t : Transport ρ} {apiKey id bucket : String} {cs : List Cluster} :
    (bucketClusters s t apiKey id).result = .ok (bucket, cs) ↔
      ∃ f, (flow s t apiKey id).result = .ok f ∧ f.bucket = bucket ∧ (clusters s t f.bucket).result = .ok cs := by
  rw [bucketClusters_result]
  cases hf : (flow s t apiKey id).result with
  | error e => simp [bind, Except.bind]
  | ok f => cases hc : (clusters s t f.bucket).result <;> simp [bind, Except.bind, Functor.map, Except.map, hc]

theorem bucketClusters_eq_error_iff {s : Settings} {t : Transport ρ} {apiKey id : String} {e : LookupFailure} :
    (bucketClusters s t apiKey id).result = .error e ↔ (flow s t apiKey id).result = .error e ∨
      ∃ f, (flow s t apiKey id).result = .ok f ∧ (clusters s t f.bucket).result = .error e := by
  rw [bucketClusters_result]
  cases hf : (flow s t apiKey id).result with
  | error e => simp [bind, Except.bind]
  | ok f => cases hc : (clusters s t f.bucket).result <;> simp [bind, Except.bind, Functor.map, Except.map, hc]

theorem bucketClusters_seen (s : Settings) (t : Transport ρ) (apiKey id : String) :
    (bucketClusters s t apiKey id).seen = (flow s t apiKey id).seen ++
      match (flow s t apiKey id).result with
      | .ok f => (clusters s t f.bucket).seen
      | .error _ => [] := by
  simp only [bucketClusters, Attempt.bind_seen, Attempt.report_result, Attempt.report_seen, Attempt.pure_seen,
    List.nil_append]
  cases (flow s t apiKey id).result with
  | error e => rfl
  | ok f =>
    dsimp only
    cases (clusters s t f.bucket).result <;> simp

theorem resolve_result (s : Settings) (t : Transport ρ) (apiKey id identifier : String) :
    (resolve s t apiKey id identifier).result =
      (fun p => Selection.select p.2 identifier) <$> (bucketClusters s t apiKey id).result := by
  simp only [resolve, Attempt.bind_result, Attempt.report_result, Attempt.pure_result]
  rfl

/-- A lenient resolution fails only where the clusters of the bucket are not had. -/
theorem bucketClusters_of_resolve {s : Settings} {t : Transport ρ} {apiKey id identifier : String} {e : LookupFailure}
    (h : (resolve s t apiKey id identifier).result = .error e) : (bucketClusters s t apiKey id).result = .error e :=
  error_of_map ((resolve_result s t apiKey id identifier).symm.trans h)

theorem resolve_seen (s : Settings) (t : Transport ρ) (apiKey id identifier : String) :
    (resolve s t apiKey id identifier).seen = (bucketClusters s t apiKey id).seen := by
  simp only [resolve, Attempt.bind_seen, Attempt.report_result, Attempt.report_seen, Attempt.pure_seen]
  split <;> simp

theorem resolveStrict_seen (s : Settings) (t : Transport ρ) (apiKey id identifier : String) :
    (resolveStrict s t apiKey id identifier).seen = (bucketClusters s t apiKey id).seen := by
  simp only [resolveStrict, Attempt.bind_seen, Attempt.ofExcept_result, Attempt.ofExcept_seen, Attempt.report_result,
    Attempt.report_seen, Attempt.pure_seen]
  split
  · split <;> simp
  · simp

end Resolution
end FlowCluster
