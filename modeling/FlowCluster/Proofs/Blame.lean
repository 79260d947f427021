import FlowCluster.Proofs.Sendings

/-! # Which lookup a failure is of

A call that fails for a lookup fails as that lookup does. A lookup of an id that is no segment names the host alone; any
other lookup names the address that it asks for, if what answers it does not name another. -/

namespace FlowCluster

variable {ρ α : Type} {s : Settings} {t : Transport ρ} {apiKey id bucket : String} {e : CallFailure}

namespace Lookup

open Settings (Unfit unfitFailure)

theorem flow_eq_error (h : (flow s t apiKey id).result = .error e) :
    Unfit id ∧ e = unfitFailure s.flowHost id ∨
      ∃ url, s.flowUrl id = .ok url ∧ fitRecord Flow.decoder url (t.answers ⟨url, apiKey⟩) = .error e := by
  rw [flow_result, Settings.flowUrl_eq] at h
  split_ifs at h with hid
  · cases h
    exact .inl ⟨hid, rfl⟩
  · exact .inr ⟨_, Settings.flowUrl_eq_ok_iff.mpr ⟨hid, rfl⟩, h⟩

theorem clusters_eq_error (h : (clusters s t bucket).result = .error e) :
    Unfit bucket ∧ e = unfitFailure s.clusterHost bucket ∨
      ∃ url, s.bucketUrl bucket = .ok url ∧
        fitRecord (Json.list Cluster.decoder) url (t.answers ⟨url, s.masterKey⟩) = .error e := by
  rw [clusters_result, Settings.bucketUrl_eq] at h
  split_ifs at h with hid
  · cases h
    exact .inl ⟨hid, rfl⟩
  · exact .inr ⟨_, Settings.bucketUrl_eq_ok_iff.mpr ⟨hid, rfl⟩, h⟩

variable {decoder : Json.Decoder α} {url : String} {answer : Except CallFailure Response}

/-- What is wrong with an answer: that there is none, that it is not fit, or that its body is no record. -/
theorem fitRecord_eq_error (h : fitRecord decoder url answer = .error e) :
    answer = .error e ∨
      (∃ r, answer = .ok r ∧ (e = .emptyBody r.url r.status ∨ e = .status r.url r.status)) ∨
      ∃ r, e = .decode url r := by
  cases answer with
  | error e' =>
    cases h
    exact .inl rfl
  | ok r =>
    obtain ⟨own, status, body?⟩ := r
    cases body? with
    | none =>
      cases h
      exact .inr (.inl ⟨_, rfl, .inl rfl⟩)
    | some body =>
      by_cases hs : status = 200
      · subst hs
        change (Json.read decoder body).mapError (.decode url) = .error e at h
        cases hd : Json.read decoder body with
        | ok x =>
          rw [hd] at h
          cases h
        | error r =>
          rw [hd] at h
          cases h
          exact .inr (.inr ⟨r, rfl⟩)
      · simp only [fitRecord, fitBody, if_neg hs] at h
        cases h
        exact .inr (.inl ⟨_, rfl, .inr rfl⟩)

/-- Where an answer bears the address it was asked for, so does all that is wrong with it. -/
theorem url_of_fitRecord (h : fitRecord decoder url answer = .error e) (hfailure : ∀ e, answer = .error e → e.url = url)
    (hresponse : ∀ r, answer = .ok r → r.url = url) : e.url = url := by
  rcases fitRecord_eq_error h with ha | ⟨r, ha, rfl | rfl⟩ | ⟨r, rfl⟩
  · exact hfailure e ha
  · exact hresponse r ha
  · exact hresponse r ha
  · rfl

/-- A request that could not be made is found wanting by the transport alone. -/
theorem fitRecord_eq_request_iff {own message : String} :
    fitRecord decoder url answer = .error (.request own message) ↔ answer = .error (.request own message) := by
  constructor
  · intro h
    rcases fitRecord_eq_error h with ha | ⟨r, -, he | he⟩ | ⟨r, he⟩
    · exact ha
    · cases he
    · cases he
    · cases he
  · rintro rfl
    rfl

end Lookup

namespace Resolution

variable {f : LookupFailure}

private theorem cause_of_checked {check : Except Misconfiguration Unit} {x : Except CallFailure α}
    {wrap : CallFailure → LookupFailure} (hwrap : ∀ e, (wrap e).call? = some e)
    (h : (check.mapError .misconfigured >>= fun _ => x.mapError wrap) = .error f) (he : f.call? = some e) :
    f = wrap e ∧ x = .error e := by
  cases check with
  | error m =>
    cases h
    cases he
  | ok u =>
    cases x with
    | ok a => cases h
    | error e' =>
      cases h
      cases (hwrap e').symm.trans he
      exact ⟨rfl, rfl⟩

theorem lookup_of_flow_error (h : (flow s t apiKey id).result = .error f) (he : f.call? = some e) :
    f = .flow e ∧ (Lookup.flow s t apiKey id).result = .error e :=
  cause_of_checked (fun _ => rfl) ((flow_result s t apiKey id).symm.trans h) he

theorem lookup_of_clusters_error (h : (clusters s t bucket).result = .error f) (he : f.call? = some e) :
    f = .clusters e ∧ (Lookup.clusters s t bucket).result = .error e :=
  cause_of_checked (fun _ => rfl) ((clusters_result s t bucket).symm.trans h) he

/-- A strict resolution fails as its lookups do, or for want of a cluster. -/
theorem bucketClusters_of_resolveStrict {identifier : String}
    (h : (resolveStrict s t apiKey id identifier).result = .error f) (he : f.call? = some e) :
    (bucketClusters s t apiKey id).result = .error f := by
  cases hb : (bucketClusters s t apiKey id).result with
  | error f' =>
    rw [resolveStrict_of_error hb] at h
    cases h
    rfl
  | ok p =>
    obtain ⟨bucket, cs⟩ := p
    cases hl : Selection.last? cs identifier with
    | some c =>
      rw [resolveStrict_of_some hb hl] at h
      cases h
    | none =>
      rw [resolveStrict_of_none hb hl] at h
      cases h
      cases he

end Resolution

namespace Step

/-- The lookup that a call fails by. -/
inductive FailsBy (s : Settings) (t : Transport ρ) (x : Step) : StepFailure → CallFailure → Prop
  | flow {apiKey id : String} {e : CallFailure} (hx : x.flowCall? = some (apiKey, id))
      (h : (Lookup.flow s t apiKey id).result = .error e) : FailsBy s t x (x.flowFailure e) e
  | clusters {bucket : String} {e : CallFailure} (hx : x.Names s t.answers bucket)
      (h : (Lookup.clusters s t bucket).result = .error e) : FailsBy s t x (x.clustersFailure e) e

variable {x : Step} {f : StepFailure}

theorem flowNames_of_ok {a : Flow} (h : (Resolution.flow s t apiKey id).result = .ok a) :
    FlowNames s t.answers apiKey id a.bucket := by
  obtain ⟨url, hu, hr⟩ := Lookup.flow_eq_ok_iff.mp (Resolution.flow_eq_ok_iff.mp h).2
  obtain ⟨own, body, ha, hd⟩ := Lookup.fitRecord_eq_ok_iff.mp hr
  exact ⟨url, own, body, a, hu, ha, hd, rfl⟩

/-- The two lookups of a resolution. -/
private theorem failsBy_bucketClusters {f : LookupFailure} (hx : x.resolution? = some (apiKey, id))
    (hnames : ∀ bucket, FlowNames s t.answers apiKey id bucket → x.Names s t.answers bucket)
    (h : (Resolution.bucketClusters s t apiKey id).result = .error f) (he : f.call? = some e) :
    x.FailsBy s t (.lookup f) e := by
  rcases Resolution.bucketClusters_eq_error_iff.mp h with h | ⟨a, ha, h⟩
  · obtain ⟨rfl, hl⟩ := Resolution.lookup_of_flow_error h he
    rw [← flowFailure_of_resolution? hx]
    exact .flow (flowCall?_of_resolution? hx) hl
  · obtain ⟨rfl, hl⟩ := Resolution.lookup_of_clusters_error h he
    rw [← clustersFailure_of_resolution? hx]
    exact .clusters (hnames _ (flowNames_of_ok ha)) hl

theorem failure_of_map {ε ε' β : Type} {y : Attempt ρ ε α} {g : α → β} {k : ε → ε'} {f : ε'}
    (h : ((g <$> y).mapFailure k).result = .error f) : ∃ e, y.result = .error e ∧ f = k e := by
  rw [Attempt.mapFailure_result, Attempt.map_result] at h
  cases hy : y.result with
  | ok a => rw [hy] at h; cases h
  | error e =>
    rw [hy] at h
    cases h
    exact ⟨e, rfl, rfl⟩

theorem failsBy_run (h : (x.run s t).result = .error f) (he : f.call? = some e) : x.FailsBy s t f e := by
  cases x with
  | resolve apiKey id identifier =>
    obtain ⟨f, hf, rfl⟩ := failure_of_map h
    exact failsBy_bucketClusters rfl (fun _ hn => hn) (Resolution.bucketClusters_of_resolve hf) he
  | resolveStrict apiKey id identifier =>
    obtain ⟨f, hf, rfl⟩ := failure_of_map h
    exact failsBy_bucketClusters rfl (fun _ hn => hn) (Resolution.bucketClusters_of_resolveStrict hf he) he
  | flow apiKey id =>
    obtain ⟨f, hf, rfl⟩ := failure_of_map h
    obtain ⟨rfl, hl⟩ := Resolution.lookup_of_flow_error hf he
    exact .flow rfl hl
  | clusters bucket =>
    obtain ⟨f, hf, rfl⟩ := failure_of_map h
    obtain ⟨rfl, hl⟩ := Resolution.lookup_of_clusters_error hf he
    exact .clusters rfl hl
  | flowUnchecked apiKey id =>
    obtain ⟨e', hf, rfl⟩ := failure_of_map h
    cases he
    exact .flow rfl hf
  | clustersUnchecked bucket =>
    obtain ⟨e', hf, rfl⟩ := failure_of_map h
    cases he
    exact .clusters rfl hf

variable {answer : Request → Except CallFailure Response} {a : Attempt Request StepFailure Answer} {r : Request}

private theorem answered_of_fit {decoder : Json.Decoder α} {url : String} {v : α}
    (h : Lookup.fitRecord decoder url (answer r) = .ok v) : answer r ≠ .error e := by
  intro he
  rw [he] at h
  cases h

theorem Opening.answered {seen : List Request} {events : List Event} (h : Opening s answer x bucket seen events)
    (hr : r ∈ seen) : answer r ≠ .error e := by
  cases h with
  | given hx => cases hr
  | named hx hurl hfit =>
    obtain rfl := List.mem_singleton.mp hr
    exact answered_of_fit hfit

theorem Opening.answered_append {seen : List Request} {events : List Event} {r' : Request} {decoder : Json.Decoder α}
    {url : String} {v : α} (h : Opening s answer x bucket seen events)
    (hfit : Lookup.fitRecord decoder url (answer r') = .ok v) (hr : r ∈ seen ++ [r']) : answer r ≠ .error e := by
  rcases List.mem_append.mp hr with hr | hr
  · exact h.answered hr
  · obtain rfl := List.mem_singleton.mp hr
    exact answered_of_fit hfit

/-- A request that is not answered is the last one of its call, which fails with it. -/
theorem Course.ended (h : x.Course s answer a) (hr : r ∈ a.seen) (he : answer r = .error e) :
    ∃ f, a.result = .error f ∧ f.call? = some e := by
  cases h with
  | flowRefused h => cases hr
  | flowFailed hx hurl h =>
    obtain rfl := List.mem_singleton.mp hr
    rw [he] at h
    cases h
    exact ⟨_, rfl, call?_flowFailure⟩
  | flowRead hx hx' hurl h =>
    obtain rfl := List.mem_singleton.mp hr
    exact absurd he (answered_of_fit h)
  | clustersRefused ho h => exact absurd he (ho.answered hr)
  | clustersFailed ho hask h =>
    rcases List.mem_append.mp hr with hr | hr
    · exact absurd he (ho.answered hr)
    · obtain rfl := List.mem_singleton.mp hr
      rw [he] at h
      cases h
      exact ⟨_, rfl, call?_clustersFailure⟩
  | clustersRead hx hask h =>
    obtain rfl := List.mem_singleton.mp hr
    exact absurd he (answered_of_fit h)
  | missed ho hask h => exact absurd he (ho.answered_append h hr)
  | concluded ho hask h hc => exact absurd he (ho.answered_append h hr)

/-- So it is over any transport. -/
theorem ended_run (hr : r ∈ x.requests s t) (he : (t.fetch r).result = .error e) :
    ∃ f, (x.run s t).result = .error f ∧ f.call? = some e := by
  rw [(sends_run x).result]
  exact (course_run s t.answers x).ended hr he

end Step

end FlowCluster
