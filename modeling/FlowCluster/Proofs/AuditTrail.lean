import FlowCluster.Log.Basic
import FlowCluster.Proofs.Course
import Mathlib.Data.List.Forall2

/-! # The log as an audit trail

What a call reports accounts for what it has asked and for how it ends. The announcements in its log are its requests in
order, and a resolution that gives a cluster says so in its last event, which alone is above the level of debugging. A call
that fails, and a call of another kind, leaves nothing above that level. -/

namespace FlowCluster

open Lookup (fitRecord)

namespace Event

/-- Whether an event announces a request, by its message. -/
def announces (e : Event) : Bool := e.message = "Fetching flow" ∨ e.message = "Fetching bucket clusters"

/-- Whether an event is above the level of debugging. -/
def isLoud (e : Event) : Bool := Log.rank e.level < Log.rank .debug

end Event

namespace Step

/-- An event announces a request of a call, and the request is of the kind that the event says. -/
structure Announced (s : Settings) (answer : Request → Except CallFailure Response) (x : Step) (e : Event)
    (r : Request) : Prop where
  level : e.level = .debug
  fields : e.fields = [("url", .text r.url)]
  kind : e.message = "Fetching flow" ∧ x.FlowRequest s r ∨
    e.message = "Fetching bucket clusters" ∧ x.BucketRequest s answer r

/-- How the log of a resolution ends that gives a cluster: the last event is the only loud one, and names the flow and the
cluster asked for, and the bucket that the flow answer names and the last request went to. -/
structure EndsWith (s : Settings) (answer : Request → Except CallFailure Response) (apiKey id identifier : String)
    (tone : Level × String) (a : Attempt Request StepFailure Answer) (bucket : String) (r : Request) (e : Event) :
    Prop where
  named : FlowNames s answer apiKey id bucket
  last_request : a.seen.getLast? = some r
  address : s.bucketUrl bucket = .ok r.url
  last_event : a.events.getLast? = some e
  loud : a.events.filter (·.isLoud) = [e]
  tone : (e.level, e.message) = tone
  fields : e.fields = [("flow", .text id), ("bucket", .text bucket), ("cluster", .text identifier)]

/-- How a resolution speaks of a cluster of a flow. -/
def resolvedTone : Level × String := (.info, "Resolved cluster")

/-- How a lenient resolution speaks of the cluster that it gives. -/
def lenientTone (c : Cluster) : Level × String :=
  if c = .blank then (.warn, "No cluster matched, returning empty record") else resolvedTone

/-- The log of a call accounts for the call. -/
structure Audited (s : Settings) (answer : Request → Except CallFailure Response) (x : Step)
    (a : Attempt Request StepFailure Answer) : Prop where
  announced : List.Forall₂ (x.Announced s answer) (a.events.filter (·.announces)) a.seen
  lenient : ∀ apiKey id identifier v, x = .resolve apiKey id identifier → a.result = .ok v →
    ∃ c, v = .cluster c ∧ ∃ bucket r e, EndsWith s answer apiKey id identifier (lenientTone c) a bucket r e
  strict : ∀ apiKey id identifier v, x = .resolveStrict apiKey id identifier → a.result = .ok v →
    ∃ bucket r e, EndsWith s answer apiKey id identifier resolvedTone a bucket r e
  failed : ∀ f, a.result = .error f → a.events.filter (·.isLoud) = []
  other : x.resolution? = none → a.events.filter (·.isLoud) = []

variable {s : Settings} {answer : Request → Except CallFailure Response} {x : Step} {bucket : String}
  {seen : List Request} {events : List Event}

theorem announced_flow {id : String} {r : Request} (hx : x.flowCall? = some (r.apiKey, id))
    (hr : s.flowUrl id = .ok r.url) : x.Announced s answer (.fetchingFlow r.url) r :=
  ⟨rfl, rfl, .inl ⟨rfl, id, hx, hr⟩⟩

theorem announced_clusters {r : Request} (h : x.BucketRequest s answer r) :
    x.Announced s answer (.fetchingClusters r.url) r := ⟨rfl, rfl, .inr ⟨rfl, h⟩⟩

/-- Besides the announcement, nothing is reported of a request that announces one. -/
theorem announces_flowReport (id : String) (r : Request) :
    ((flowErrand s r.apiKey id).report answer r).filter (·.announces) = [.fetchingFlow r.url] :=
  Errand.filter_report (fun _ _ _ => rfl) (fun _ _ _ => rfl) fun _ _ => rfl

theorem announces_clustersReport (bucket : String) (r : Request) :
    ((clustersErrand s bucket).report answer r).filter (·.announces) = [.fetchingClusters r.url] :=
  Errand.filter_report (fun _ _ _ => rfl) (fun _ _ _ => rfl) fun _ _ => rfl

theorem loud_flowReport (id : String) (r : Request) :
    ((flowErrand s r.apiKey id).report answer r).filter (·.isLoud) = [] :=
  Errand.filter_report (fun _ _ _ => rfl) (fun _ _ _ => rfl) fun _ _ => rfl

theorem loud_clustersReport (bucket : String) (r : Request) :
    ((clustersErrand s bucket).report answer r).filter (·.isLoud) = [] :=
  Errand.filter_report (fun _ _ _ => rfl) (fun _ _ _ => rfl) fun _ _ => rfl

theorem Concludes.announces {c : Cluster} {e : Event} (h : Concludes bucket c x e) : e.announces = false := by
  cases h with
  | lenient apiKey id identifier => rw [Resolution.outcome]; split <;> rfl
  | strict apiKey id identifier => rfl

theorem Concludes.isLoud {c : Cluster} {e : Event} (h : Concludes bucket c x e) : e.isLoud = true := by
  cases h with
  | lenient apiKey id identifier => rw [Resolution.outcome]; split <;> rfl
  | strict apiKey id identifier => rfl

theorem Opening.announced (h : Opening s answer x bucket seen events) :
    List.Forall₂ (x.Announced s answer) (events.filter (·.announces)) seen := by
  cases h with
  | given hx => exact .nil
  | named hx hr hfit => exact .cons (announced_flow (flowCall?_of_resolution? hx) hr) .nil

theorem Opening.quiet (h : Opening s answer x bucket seen events) : events.filter (·.isLoud) = [] := by
  cases h <;> rfl

/-- The announcements of an opening, and of one request for clusters after it. -/
private theorem Opening.announced_append {r : Request} {more : List Event} (h : Opening s answer x bucket seen events)
    (hr : (clustersErrand s bucket).asks r) (hmore : more.filter (·.announces) = [.fetchingClusters r.url]) :
    List.Forall₂ (x.Announced s answer) ((events ++ more).filter (·.announces)) (seen ++ [r]) := by
  rw [List.filter_append, hmore]
  exact List.rel_append h.announced (.cons (announced_clusters (h.bucketRequest hr)) .nil)

variable {a : Attempt Request StepFailure Answer}

theorem Course.announced (h : x.Course s answer a) :
    List.Forall₂ (x.Announced s answer) (a.events.filter (·.announces)) a.seen := by
  cases h with
  | flowRefused h => exact .nil
  | @flowFailed id r cause hx hr h =>
    rw [announces_flowReport]
    exact .cons (announced_flow hx hr) .nil
  | flowRead hx hx' hr h => exact .cons (announced_flow hx hr) .nil
  | clustersRefused ho h => exact ho.announced
  | clustersFailed ho hr h => exact ho.announced_append hr (announces_clustersReport _ _)
  | clustersRead hx hr h => exact .cons (announced_clusters ((Opening.given hx).bucketRequest hr)) .nil
  | missed ho hr h => exact ho.announced_append hr rfl
  | @concluded _ _ _ _ _ _ e ho hr h he =>
    have hnone : [e].filter (·.announces) = [] := List.filter_cons_of_neg (by simp [he.announces])
    exact ho.announced_append hr ((List.filter_cons_of_pos rfl).trans (congrArg _ hnone))

/-- A call is loud only if it gives a cluster. -/
theorem Course.quiet (h : x.Course s answer a) (hresult : ∀ c, a.result ≠ .ok (.cluster c)) :
    a.events.filter (·.isLoud) = [] := by
  cases h with
  | flowRefused h => rfl
  | flowFailed hx hr h => exact loud_flowReport _ _
  | flowRead hx hx' hr h => rfl
  | clustersRefused ho h => exact ho.quiet
  | clustersFailed ho hr h => rw [List.filter_append, ho.quiet, loud_clustersReport, List.append_nil]
  | clustersRead hx hr h => rfl
  | missed ho hr h => rw [List.filter_append, ho.quiet]; rfl
  | concluded ho hr h he => exact absurd rfl (hresult _)

/-- A resolution that gives a cluster has come through both lookups. -/
theorem Course.resolved {apiKey id : String} {v : Answer} (h : x.Course s answer a)
    (hx : x.resolution? = some (apiKey, id)) (hv : a.result = .ok v) :
    ∃ bucket c e seen events r, Opening s answer x bucket seen events ∧ (clustersErrand s bucket).asks r ∧
      Concludes bucket c x e ∧ a = ⟨.ok (.cluster c), seen ++ [r], events ++ [.fetchingClusters r.url, e]⟩ := by
  cases h with
  | flowRead hx₁ hx' hr h => cases hx.symm.trans hx'
  | clustersRead hx' hr h => rcases hx' with rfl | rfl <;> cases hx
  | concluded ho hr h he => exact ⟨_, _, _, _, _, _, ho, hr, he, rfl⟩
  | _ => cases hv

private theorem endsWith_of_concluded {apiKey id identifier : String} {tone : Level × String} {c : Cluster} {e : Event}
    {r : Request} (ho : Opening s answer x bucket seen events) (hr : (clustersErrand s bucket).asks r)
    (he : Concludes bucket c x e) (hnamed : x.Names s answer bucket → FlowNames s answer apiKey id bucket)
    (htone : (e.level, e.message) = tone)
    (hfields : e.fields = [("flow", .text id), ("bucket", .text bucket), ("cluster", .text identifier)]) :
    EndsWith s answer apiKey id identifier tone
      ⟨.ok (.cluster c), seen ++ [r], events ++ [.fetchingClusters r.url, e]⟩ bucket r e := by
  refine ⟨hnamed ho.names, List.getLast?_concat, hr.2, ?_, ?_, htone, hfields⟩
  · rw [List.getLast?_append]
    rfl
  · have hlast : [.fetchingClusters r.url, e].filter (·.isLoud) = [e] :=
      (List.filter_cons_of_neg Bool.false_ne_true).trans (List.filter_cons_of_pos he.isLoud)
    rw [List.filter_append, ho.quiet, hlast, List.nil_append]

theorem Course.audited (h : x.Course s answer a) : x.Audited s answer a := by
  refine ⟨h.announced, ?_, ?_, ?_, ?_⟩
  · rintro apiKey id identifier v rfl hv
    obtain ⟨bucket, c, e, seen, events, r, ho, hr, he, rfl⟩ := h.resolved rfl hv
    refine ⟨c, (Except.ok.inj hv).symm, bucket, r, e, endsWith_of_concluded ho hr he (fun hn => hn) ?_ ?_⟩
    · cases he
      by_cases hc : c = .blank
      · rw [lenientTone, if_pos hc, hc]
        rfl
      · rw [lenientTone, if_neg hc, Resolution.outcome_of_ne_blank hc]
        rfl
    · cases he
      rw [Resolution.outcome]
      split <;> rfl
  · rintro apiKey id identifier v rfl hv
    obtain ⟨bucket, c, e, seen, events, r, ho, hr, he, rfl⟩ := h.resolved rfl hv
    refine ⟨bucket, r, e, endsWith_of_concluded ho hr he (fun hn => hn) ?_ ?_⟩
    · cases he
      rfl
    · cases he
      rfl
  · intro f hf
    apply h.quiet
    intro c hc
    cases hf.symm.trans hc
  · intro hx
    apply h.quiet
    intro c hc
    cases h with
    | concluded ho hr h he => cases he <;> cases hx
    | _ => cases hc

end Step

/-- The log of every call over every directory in memory accounts for the call. What the directory reports itself stands
behind the announcements of the requests that it answers, and changes nothing else. -/
theorem log_audits_call (s : Settings) (answer : Request → Except CallFailure Response × List Event) (x : Step) :
    x.Audited s (fun r => (answer r).1) (x.run s (.answering fun r => (answer r).1)) ∧
      x.run s (.recording answer) =
        (x.run s (.answering fun r => (answer r).1)).weave (reportsBehind s x.key fun r => (answer r).2) :=
  ⟨(Step.course_run s _ x).audited, Step.run_recording s answer x⟩

end FlowCluster
