import FlowCluster.Proofs.Confinement
import FlowCluster.Proofs.Reports
import FlowCluster.Proofs.Selection

/-! # Where the strict resolution differs

Both resolutions make the same two lookups and part only over the list that these bring. If it holds a cluster of the
identifier, both give the last one; if it holds none, the lenient resolution gives the blank cluster and the strict one
fails. A blank cluster can be in the list too, under the empty identifier, and then both give it. -/

namespace FlowCluster.Resolution

open Selection

section

variable {ρ : Type} {s : Settings} {t : Transport ρ} {apiKey id identifier bucket : String} {cs : List Cluster}

/-- What the lenient resolution reports of the cluster that it gives. -/
def outcome (id bucket identifier : String) (c : Cluster) : Event :=
  if c.isBlank then .nothingMatched id bucket identifier else .resolved id bucket identifier

theorem outcome_blank : outcome id bucket identifier .blank = .nothingMatched id bucket identifier := rfl

theorem outcome_of_ne_blank {c : Cluster} (h : c ≠ .blank) :
    outcome id bucket identifier c = .resolved id bucket identifier := by
  rw [outcome, if_neg]
  rwa [Cluster.isBlank, beq_iff_eq]

theorem outcome_level_ne_debug (c : Cluster) : (outcome id bucket identifier c).level ≠ .debug := by
  by_cases h : c = .blank
  · rw [h, outcome_blank]
    intro hd
    cases hd
  · rw [outcome_of_ne_blank h]
    intro hd
    cases hd

theorem outcome_level_eq_warn_iff {c : Cluster} :
    (outcome id bucket identifier c).level = .warn ↔ c = .blank := by
  by_cases h : c = .blank
  · rw [h, outcome_blank]
    exact iff_of_true rfl rfl
  · rw [outcome_of_ne_blank h]
    exact iff_of_false (by intro hw; cases hw) h

theorem resolve_of_error {e : LookupFailure} (h : (bucketClusters s t apiKey id).result = .error e) :
    resolve s t apiKey id identifier =
      ⟨.error e, (bucketClusters s t apiKey id).seen, (bucketClusters s t apiKey id).events⟩ :=
  Attempt.bind_of_error h _

theorem resolve_of_ok (h : (bucketClusters s t apiKey id).result = .ok (bucket, cs)) :
    resolve s t apiKey id identifier =
      ⟨.ok (select cs identifier), (bucketClusters s t apiKey id).seen,
        (bucketClusters s t apiKey id).events ++ [outcome id bucket identifier (select cs identifier)]⟩ := by
  have hrest : resolve s t apiKey id identifier = _ := Attempt.bind_of_ok h _
  rw [hrest, Attempt.bind_seen, Attempt.bind_events]
  simp only [Attempt.bind_result, Attempt.report_result, Attempt.report_seen, Attempt.report_events,
    Attempt.pure_seen, Attempt.pure_events, List.append_nil]
  rfl

theorem resolveStrict_of_error {e : LookupFailure} (h : (bucketClusters s t apiKey id).result = .error e) :
    resolveStrict s t apiKey id identifier =
      ⟨.error e, (bucketClusters s t apiKey id).seen, (bucketClusters s t apiKey id).events⟩ :=
  Attempt.bind_of_error h _

theorem resolveStrict_of_some {c : Cluster} (h : (bucketClusters s t apiKey id).result = .ok (bucket, cs))
    (hc : last? cs identifier = some c) :
    resolveStrict s t apiKey id identifier =
      ⟨.ok c, (bucketClusters s t apiKey id).seen,
        (bucketClusters s t apiKey id).events ++ [.resolved id bucket identifier]⟩ := by
  have hrest : resolveStrict s t apiKey id identifier = _ := Attempt.bind_of_ok h _
  simp only [hrest, selectStrict_of_some hc]
  exact congrArg (Attempt.mk _ · _) (List.append_nil _)

theorem resolveStrict_of_none (h : (bucketClusters s t apiKey id).result = .ok (bucket, cs))
    (hn : last? cs identifier = none) :
    resolveStrict s t apiKey id identifier =
      ⟨.error (.clusterNotFound bucket identifier), (bucketClusters s t apiKey id).seen,
        (bucketClusters s t apiKey id).events⟩ := by
  have hrest : resolveStrict s t apiKey id identifier = _ := Attempt.bind_of_ok h _
  simp only [hrest, selectStrict_of_none hn]
  exact congrArg₂ (Attempt.mk _) (List.append_nil _) (List.append_nil _)

private theorem flow_ne_clusterNotFound (b i : String) :
    (flow s t apiKey id).result ≠ .error (.clusterNotFound b i) := by
  rw [flow_result]
  cases s.checkFlow with
  | error m => intro h; cases h
  | ok u =>
    cases (Lookup.flow s t apiKey id).result with
    | error e => intro h; cases h
    | ok f => intro h; cases h

private theorem clusters_ne_clusterNotFound (b i : String) :
    (clusters s t bucket).result ≠ .error (.clusterNotFound b i) := by
  rw [clusters_result]
  cases s.checkClusters with
  | error m => intro h; cases h
  | ok u =>
    cases (Lookup.clusters s t bucket).result with
    | error e => intro h; cases h
    | ok cs => intro h; cases h

/-- Only the selection can find no cluster, not the lookups before it. -/
theorem bucketClusters_ne_clusterNotFound (b i : String) :
    (bucketClusters s t apiKey id).result ≠ .error (.clusterNotFound b i) := by
  intro h
  rcases bucketClusters_eq_error_iff.mp h with hf | ⟨f, -, hc⟩
  · exact flow_ne_clusterNotFound b i hf
  · exact clusters_ne_clusterNotFound b i hc

end

section

variable {s : Settings} {answer : Request → Except CallFailure Response × List Event}
  {apiKey id identifier bucket : String} {cs : List Cluster}

/-- The answer for the clusters of a bucket decodes to a list. -/
def BucketLists (s : Settings) (answer : Request → Except CallFailure Response) (bucket : String)
    (cs : List Cluster) : Prop :=
  ∃ url own body, s.bucketUrl bucket = .ok url ∧ answer ⟨url, s.masterKey⟩ = .ok ⟨own, 200, some body⟩ ∧
    Json.read (Json.list Cluster.decoder) body = .ok cs

theorem bucketLists_of_clusters (h : (clusters s (.recording answer) bucket).result = .ok cs) :
    BucketLists s (fun r => (answer r).1) bucket cs := by
  obtain ⟨url, hu, hr⟩ := Lookup.clusters_eq_ok_iff.mp (clusters_eq_ok_iff.mp h).2
  obtain ⟨own, body, ha, hd⟩ := Lookup.fitRecord_eq_ok_iff.mp hr
  exact ⟨url, own, body, hu, ha, hd⟩

/-- What the two lookups bring is what the answers to them say. -/
theorem named_of_bucketClusters (h : (bucketClusters s (.recording answer) apiKey id).result = .ok (bucket, cs)) :
    Step.FlowNames s (fun r => (answer r).1) apiKey id bucket ∧ BucketLists s (fun r => (answer r).1) bucket cs := by
  obtain ⟨f, hf, rfl, hc⟩ := bucketClusters_eq_ok_iff.mp h
  exact ⟨Step.flowNames_of_flow hf, bucketLists_of_clusters hc⟩

end

/-- How a lenient and a strict resolution compare over one directory in memory, which may report what it likes. -/
structure DiffersOnMiss (s : Settings) (answer : Request → Except CallFailure Response × List Event)
    (apiKey id identifier : String) (lenient strict : Attempt Request LookupFailure Cluster) : Prop where
  same_requests : lenient.seen = strict.seen
  same_debug : (lenient.events.filter fun e => e.level = .debug) = strict.events.filter fun e => e.level = .debug
  same_failure : ∀ e, strict.result = .error e → (∀ b i, e ≠ .clusterNotFound b i) → lenient.result = .error e
  same_cluster : ∀ c, strict.result = .ok c → lenient.result = .ok c ∧ c.identifier = identifier
  miss : ∀ b i, strict.result = .error (.clusterNotFound b i) →
    Step.FlowNames s (fun r => (answer r).1) apiKey id b ∧ i = identifier ∧
      lenient.result = .ok .blank ∧ lenient.events.getLast? = some (.nothingMatched id b identifier)
  hit : ∀ c, lenient.result = .ok c → c ≠ .blank → strict.result = .ok c
  warned : (∀ r, ∀ e ∈ (answer r).2, e.level ≠ .warn) →
    ((∃ e ∈ lenient.events, e.level = .warn) ↔ lenient.result = .ok .blank)
  blank : lenient.result = .ok .blank → ∃ bucket cs, Step.FlowNames s (fun r => (answer r).1) apiKey id bucket ∧
    BucketLists s (fun r => (answer r).1) bucket cs ∧
      lenient.events.getLast? = some (.nothingMatched id bucket identifier) ∧
      strict.result = if identifier = "" ∧ last? cs "" = some .blank then .ok .blank
        else .error (.clusterNotFound bucket identifier)

section

variable {s : Settings} {answer : Request → Except CallFailure Response × List Event}
  {apiKey id identifier bucket : String} {cs : List Cluster}

/-- Warnings come from nowhere but the selection, unless the directory itself gives one. -/
private theorem reports_no_warning (h : ∀ r, ∀ e ∈ (answer r).2, e.level ≠ .warn) :
    (bucketClusters s (.recording answer) apiKey id).Reports (·.level ≠ .warn) := by
  apply reports_bucketClusters
  · intro e he
    rw [he]
    decide
  · intro r e he
    exact h r e he

private theorem differs_of_error {e : LookupFailure}
    (h : (bucketClusters s (.recording answer) apiKey id).result = .error e) :
    DiffersOnMiss s answer apiKey id identifier (resolve s (.recording answer) apiKey id identifier)
      (resolveStrict s (.recording answer) apiKey id identifier) := by
  rw [resolve_of_error h, resolveStrict_of_error h]
  refine ⟨rfl, rfl, fun e' he _ => he, ?_, ?_, ?_, ?_, ?_⟩
  · intro c hc
    cases hc
  · intro b i hm
    cases hm
    exact absurd h (bucketClusters_ne_clusterNotFound b i)
  · intro c hc
    cases hc
  · intro ha
    refine iff_of_false ?_ (by intro hb; cases hb)
    rintro ⟨e', he', hw⟩
    exact reports_no_warning ha e' he' hw
  · intro hb
    cases hb

/-- A last event that is not for debugging makes no difference to those that are. -/
private theorem filter_debug_append {events : List Event} {e : Event} (h : e.level ≠ .debug) :
    ((events ++ [e]).filter fun e => e.level = .debug) = events.filter fun e => e.level = .debug := by
  have hnone : ([e].filter fun e => e.level = .debug) = [] := List.filter_eq_nil_iff.mpr (by simp [h])
  rw [List.filter_append, hnone, List.append_nil]

private theorem warns_iff {events : List Event} {e : Event} (h : ∀ e ∈ events, e.level ≠ .warn) :
    (∃ e' ∈ events ++ [e], e'.level = .warn) ↔ e.level = .warn := by
  constructor
  · rintro ⟨e', he', hw⟩
    rcases List.mem_append.mp he' with he' | he'
    · exact absurd hw (h e' he')
    · rwa [← List.mem_singleton.mp he']
  · intro hw
    exact ⟨e, List.mem_append_right _ (List.mem_singleton.mpr rfl), hw⟩

private theorem differs_of_some {c : Cluster}
    (h : (bucketClusters s (.recording answer) apiKey id).result = .ok (bucket, cs))
    (hc : last? cs identifier = some c) :
    DiffersOnMiss s answer apiKey id identifier (resolve s (.recording answer) apiKey id identifier)
      (resolveStrict s (.recording answer) apiKey id identifier) := by
  obtain ⟨hf, hl⟩ := named_of_bucketClusters h
  have hi : c.identifier = identifier := identifier_of_last? hc
  rw [resolve_of_ok h, resolveStrict_of_some h hc, select_of_some hc]
  refine ⟨rfl, ?_, ?_, ?_, ?_, ?_, ?_, ?_⟩
  · exact (filter_debug_append (outcome_level_ne_debug c)).trans (filter_debug_append (by intro hd; cases hd)).symm
  · intro e he
    cases he
  · intro c' hc'
    cases hc'
    exact ⟨rfl, hi⟩
  · intro b i hm
    cases hm
  · intro c' hc' _
    exact hc'
  · intro ha
    have hquiet : (bucketClusters s (.recording answer) apiKey id).Reports (·.level ≠ .warn) := reports_no_warning ha
    rw [warns_iff hquiet, outcome_level_eq_warn_iff, Except.ok.injEq]
  · intro hb
    cases hb
    -- The blank cluster bears the empty identifier, so it was asked for by it.
    subst hi
    exact ⟨bucket, cs, hf, hl, List.getLast?_concat, by rw [if_pos ⟨rfl, hc⟩]⟩

private theorem differs_of_none (h : (bucketClusters s (.recording answer) apiKey id).result = .ok (bucket, cs))
    (hn : last? cs identifier = none) :
    DiffersOnMiss s answer apiKey id identifier (resolve s (.recording answer) apiKey id identifier)
      (resolveStrict s (.recording answer) apiKey id identifier) := by
  obtain ⟨hf, hl⟩ := named_of_bucketClusters h
  rw [resolve_of_ok h, resolveStrict_of_none h hn, select_of_none hn, outcome_blank]
  refine ⟨rfl, filter_debug_append (by intro hd; cases hd), ?_, ?_, ?_, ?_, ?_, ?_⟩
  · intro e he hne
    cases he
    exact absurd rfl (hne bucket identifier)
  · intro c hc
    cases hc
  · intro b i hm
    cases hm
    exact ⟨hf, rfl, rfl, List.getLast?_concat⟩
  · intro c hc hne
    cases hc
    exact absurd rfl hne
  · intro ha
    have hquiet : (bucketClusters s (.recording answer) apiKey id).Reports (·.level ≠ .warn) := reports_no_warning ha
    rw [warns_iff hquiet]
    exact iff_of_true rfl rfl
  · intro _
    refine ⟨bucket, cs, hf, hl, List.getLast?_concat, ?_⟩
    rw [if_neg]
    rintro ⟨rfl, hs⟩
    cases hn.symm.trans hs

end

/-- The two resolutions agree on everything they ask, report for debugging and fail with, up to a miss. -/
theorem strict_differs_on_miss (s : Settings) (answer : Request → Except CallFailure Response × List Event)
    (apiKey id identifier : String) :
    DiffersOnMiss s answer apiKey id identifier (resolve s (.recording answer) apiKey id identifier)
      (resolveStrict s (.recording answer) apiKey id identifier) := by
  cases h : (bucketClusters s (.recording answer) apiKey id).result with
  | error e => exact differs_of_error h
  | ok p =>
    obtain ⟨bucket, cs⟩ := p
    cases hl : last? cs identifier with
    | some c => exact differs_of_some h hl
    | none => exact differs_of_none h hl

end FlowCluster.Resolution
