import FlowCluster.Proofs.KeyBlindness

/-! # What each half of the settings decides

The flow directory is asked by the scheme, its own host and the caller's key, the cluster directory by the scheme, its own
host and the master key, whatever else is set or missing. So two configurations that agree on what a lookup reads give the
same lookup, and a resolution that fails in its first half fails the same way under both. -/

namespace FlowCluster

variable {ρ ε α β : Type}

/-- Settings by which the flow directory is asked in the same way. -/
structure Settings.SameFlows (s s' : Settings) : Prop where
  scheme : s.scheme = s'.scheme
  host : s.flowHost = s'.flowHost

/-- Settings by which the cluster directory is asked in the same way. -/
structure Settings.SameClusters (s s' : Settings) : Prop where
  scheme : s.scheme = s'.scheme
  host : s.clusterHost = s'.clusterHost
  masterKey : s.masterKey = s'.masterKey

namespace Settings

variable {s s' : Settings}

theorem SameFlows.check (h : SameFlows s s') : s.checkFlow = s'.checkFlow := by
  simp only [checkFlow, checkScheme, h.scheme, h.host]

theorem SameFlows.url (h : SameFlows s s') (id : String) : s.flowUrl id = s'.flowUrl id := by
  simp only [flowUrl, flowBase, h.scheme, h.host]

theorem SameClusters.check (h : SameClusters s s') : s.checkClusters = s'.checkClusters := by
  simp only [checkClusters, checkScheme, h.scheme, h.host, h.masterKey]

theorem SameClusters.url (h : SameClusters s s') (bucket : String) : s.bucketUrl bucket = s'.bucketUrl bucket := by
  simp only [bucketUrl, bucketBase, h.scheme, h.host]

end Settings

namespace Attempt

variable {x : Attempt ρ ε α} {k k' : α → Attempt ρ ε β} {e : ε}

/-- A failure that only the first of two attempts can have is that of the first. -/
theorem bind_eq_error_iff (hk : ∀ a, (k a).result ≠ .error e) :
    (x >>= k).result = .error e ↔ x.result = .error e := by
  rw [bind_result]
  cases x.result with
  | error e' => simp [bind, Except.bind]
  | ok a => exact iff_of_false (hk a) (by intro h; cases h)

/-- What comes after a failure makes no difference. -/
theorem bind_congr_of_error (h : x.result = .error e) : x >>= k = x >>= k' := by
  rw [bind_of_error h, bind_of_error h]

end Attempt

variable {s s' : Settings} {t : Transport ρ} {apiKey id identifier bucket : String} {e : CallFailure}

namespace Lookup

theorem flow_same (h : s.SameFlows s') : flow s t apiKey id = flow s' t apiKey id := by
  rw [flow, flow, h.url]

theorem clusters_same (h : s.SameClusters s') : clusters s t bucket = clusters s' t bucket := by
  rw [clusters, clusters, h.url, h.masterKey]

end Lookup

namespace Resolution

theorem flow_same (h : s.SameFlows s') : flow s t apiKey id = flow s' t apiKey id := by
  rw [flow, flow, h.check, Lookup.flow_same h]

theorem clusters_same (h : s.SameClusters s') : clusters s t bucket = clusters s' t bucket := by
  rw [clusters, clusters, h.check, Lookup.clusters_same h]

theorem clusters_ne_flow : (clusters s t bucket).result ≠ .error (.flow e) := by
  rw [clusters_result]
  cases s.checkClusters with
  | error m => intro h; cases h
  | ok u =>
    cases (Lookup.clusters s t bucket).result with
    | error e => intro h; cases h
    | ok cs => intro h; cases h

/-- Only the lookup of the flow fails as one, not that of the clusters after it. -/
theorem bucketClusters_eq_flow_iff :
    (bucketClusters s t apiKey id).result = .error (.flow e) ↔ (flow s t apiKey id).result = .error (.flow e) := by
  rw [bucketClusters_eq_error_iff]
  constructor
  · rintro (h | ⟨f, -, hc⟩)
    · exact h
    · exact absurd hc clusters_ne_flow
  · exact .inl

theorem resolve_eq_flow_iff :
    (resolve s t apiKey id identifier).result = .error (.flow e) ↔
      (flow s t apiKey id).result = .error (.flow e) := by
  rw [← bucketClusters_eq_flow_iff]
  apply Attempt.bind_eq_error_iff
  intro p h
  cases h

theorem bucketClusters_same (h : s.SameFlows s') (he : (flow s t apiKey id).result = .error (.flow e)) :
    bucketClusters s t apiKey id = bucketClusters s' t apiKey id := by
  rw [bucketClusters, bucketClusters, ← flow_same h]
  exact Attempt.bind_congr_of_error he

theorem resolve_same (h : s.SameFlows s') (he : (flow s t apiKey id).result = .error (.flow e)) :
    resolve s t apiKey id identifier = resolve s' t apiKey id identifier := by
  rw [resolve, resolve, bucketClusters_same h he]

end Resolution

namespace Step

private theorem result_lookup_iff {g : α → Answer} {x : Attempt ρ LookupFailure α} {e : LookupFailure} :
    ((g <$> x).mapFailure StepFailure.lookup).result = .error (.lookup e) ↔ x.result = .error e := by
  rw [Attempt.mapFailure_result, Attempt.map_result]
  cases x.result with
  | ok a => exact iff_of_false (by intro h; cases h) (by intro h; cases h)
  | error e' => simp [Functor.map, Except.map, Except.mapError]

end Step

/-- How two configurations of one scheme compare over a transport, if they agree on what one of the directories is asked
by. Attempts that are the same end alike, have asked the same and have reported the same. -/
structure Separate (s s' : Settings) (t : Transport ρ) : Prop where
  flow : s.flowHost = s'.flowHost → ∀ apiKey id, (Step.flow apiKey id).run s t = (Step.flow apiKey id).run s' t
  flowUnchecked : s.flowHost = s'.flowHost → ∀ apiKey id,
    (Step.flowUnchecked apiKey id).run s t = (Step.flowUnchecked apiKey id).run s' t
  clusters : s.clusterHost = s'.clusterHost → s.masterKey = s'.masterKey → ∀ bucket,
    (Step.clusters bucket).run s t = (Step.clusters bucket).run s' t
  clustersUnchecked : s.clusterHost = s'.clusterHost → s.masterKey = s'.masterKey → ∀ bucket,
    (Step.clustersUnchecked bucket).run s t = (Step.clustersUnchecked bucket).run s' t
  fails_iff : s.flowHost = s'.flowHost → ∀ apiKey id identifier e,
    ((Step.resolve apiKey id identifier).run s t).result = .error (.lookup (.flow e)) ↔
      ((Step.resolve apiKey id identifier).run s' t).result = .error (.lookup (.flow e))
  fails_alike : s.flowHost = s'.flowHost → ∀ apiKey id identifier e,
    ((Step.resolve apiKey id identifier).run s t).result = .error (.lookup (.flow e)) →
      (Step.resolve apiKey id identifier).run s t = (Step.resolve apiKey id identifier).run s' t

/-- Configurations of one scheme are separate in their two halves. -/
theorem halves_separate (h : s.scheme = s'.scheme) (t : Transport ρ) : Separate s s' t where
  flow hhost apiKey id := by
    have hflows : s.SameFlows s' := ⟨h, hhost⟩
    rw [Step.run, Step.run, Resolution.flow_same hflows]
  flowUnchecked hhost apiKey id := by
    have hflows : s.SameFlows s' := ⟨h, hhost⟩
    rw [Step.run, Step.run, Lookup.flow_same hflows]
  clusters hhost hkey bucket := by
    have hclusters : s.SameClusters s' := ⟨h, hhost, hkey⟩
    rw [Step.run, Step.run, Resolution.clusters_same hclusters]
  clustersUnchecked hhost hkey bucket := by
    have hclusters : s.SameClusters s' := ⟨h, hhost, hkey⟩
    rw [Step.run, Step.run, Lookup.clusters_same hclusters]
  fails_iff hhost apiKey id identifier e := by
    have hflows : s.SameFlows s' := ⟨h, hhost⟩
    rw [Step.run, Step.run, Step.result_lookup_iff, Step.result_lookup_iff, Resolution.resolve_eq_flow_iff,
      Resolution.resolve_eq_flow_iff, Resolution.flow_same hflows]
  fails_alike hhost apiKey id identifier e he := by
    have hflows : s.SameFlows s' := ⟨h, hhost⟩
    have hfailed : (Resolution.flow s t apiKey id).result = .error (.flow e) := by
      rwa [Step.run, Step.result_lookup_iff, Resolution.resolve_eq_flow_iff] at he
    rw [Step.run, Step.run, Resolution.resolve_same hflows hfailed]

/-- A configuration without a cluster directory looks up a flow as a whole one does. -/
theorem halves_separate_unset :
    (Settings.of "flows" "" "").scheme = masterSettings.scheme ∧
    (Step.flow "key" "f").run (.of "flows" "" "") emptyBucket.transport =
      (Step.flow "key" "f").run masterSettings emptyBucket.transport :=
  ⟨rfl, (halves_separate rfl emptyBucket.transport).flow rfl "key" "f"⟩

end FlowCluster
