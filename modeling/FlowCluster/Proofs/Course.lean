import FlowCluster.Proofs.Aftermath
import FlowCluster.Proofs.Strictness

/-! # All that a call can do

Over a directory in memory that reports nothing, a lookup goes one of three ways: it is refused before it asks, or it
asks for one document, and that is fit to be read or not. A call makes one lookup or two, so there are few courses that
it can take, and each determines what it has asked, what it has reported and how it ends. -/

namespace FlowCluster

open Lookup (fitRecord aftermath)

/-- A failure that no answer is to blame for: the request could not be made. -/
def CallFailure.Blameless : CallFailure → Prop
  | .request .. => True
  | _ => False

/-- A failure without a call, or with one that could not be made. -/
def LookupFailure.Blameless (e : LookupFailure) : Prop := ∀ cause, e.call? = some cause → cause.Blameless

namespace StepFailure

/-- The failure of a call that stopped a step, if it was one. -/
def call? : StepFailure → Option CallFailure
  | .lookup e => e.call?
  | .call e => some e

def Blameless (f : StepFailure) : Prop := ∀ cause, f.call? = some cause → cause.Blameless

end StepFailure

variable {ε ε' α : Type} {s : Settings} {answer : Request → Except CallFailure Response} {apiKey id bucket : String}

/-- The document that a lookup asks for, and how it speaks of it. -/
structure Errand (α : Type) where
  asks : Request → Prop
  decoder : Json.Decoder α
  announce : String → Event
  failed : String → CallFailure → Event

def flowErrand (s : Settings) (apiKey id : String) : Errand Flow where
  asks r := r.apiKey = apiKey ∧ s.flowUrl id = .ok r.url
  decoder := Flow.decoder
  announce := .fetchingFlow
  failed := .flowCallFailed

def clustersErrand (s : Settings) (bucket : String) : Errand (List Cluster) where
  asks r := r.apiKey = s.masterKey ∧ s.bucketUrl bucket = .ok r.url
  decoder := Json.list Cluster.decoder
  announce := .fetchingClusters
  failed := .clustersCallFailed

namespace Errand

/-- What is reported of a request and of the answer to it. -/
def report (q : Errand α) (answer : Request → Except CallFailure Response) (r : Request) : List Event :=
  q.announce r.url :: aftermath q.decoder (q.failed r.url) r.url (answer r)

/-- How an errand goes, if the failures of its call are wrapped by `wrap`, and it is refused only as `refusal` says. -/
inductive Course (q : Errand α) (answer : Request → Except CallFailure Response) (wrap : CallFailure → ε)
    (refusal : ε → Prop) : Attempt Request ε α → Prop
  | refused {e : ε} (h : refusal e) : Course q answer wrap refusal ⟨.error e, [], []⟩
  | failed {r : Request} {cause : CallFailure} (hr : q.asks r)
      (h : fitRecord q.decoder r.url (answer r) = .error cause) :
      Course q answer wrap refusal ⟨.error (wrap cause), [r], q.report answer r⟩
  | read {r : Request} {x : α} (hr : q.asks r) (h : fitRecord q.decoder r.url (answer r) = .ok x) :
      Course q answer wrap refusal ⟨.ok x, [r], [q.announce r.url]⟩

variable {q : Errand α} {wrap : CallFailure → ε} {refusal : ε → Prop}

/-- Nothing is said of an answer that is read. -/
theorem report_of_read {r : Request} {x : α} (h : fitRecord q.decoder r.url (answer r) = .ok x) :
    q.report answer r = [q.announce r.url] := by
  obtain ⟨own, body, ha, hd⟩ := Lookup.fitRecord_eq_ok_iff.mp h
  simp [report, aftermath, ha, hd]

/-- A filter that no event of an aftermath passes leaves of a report no more than the announcement. -/
theorem filter_report {p : Event → Bool} {r : Request} (hs : ∀ own status body, p (.statusNotOk own status body) = false)
    (hd : ∀ url rejection body, p (.decodingFailed url rejection body) = false)
    (hf : ∀ url e, p (q.failed url e) = false) :
    (q.report answer r).filter p = [q.announce r.url].filter p := by
  have hnone : ∀ e ∈ aftermath q.decoder (q.failed r.url) r.url (answer r), ¬p e = true := by
    refine Lookup.forall_mem_aftermath ?_ ?_ ?_ q.decoder r.url (answer r)
    · intro own status body
      simp [hs]
    · intro url rejection body
      simp [hd]
    · intro e
      simp [hf]
  rw [report, List.filter_cons, List.filter_cons, List.filter_eq_nil_iff.mpr hnone, List.filter_nil]

theorem course_of_asked {r : Request} (hr : q.asks r) :
    q.Course answer (fun e => e) CallFailure.Blameless ⟨fitRecord q.decoder r.url (answer r), [r], q.report answer r⟩ := by
  cases h : fitRecord q.decoder r.url (answer r) with
  | error cause => exact .failed hr h
  | ok x =>
    rw [report_of_read h]
    exact .read hr h

/-- Settings are checked before an errand; if they do not do, it is refused. -/
theorem Course.checked {y : Attempt Request CallFailure α} {g : CallFailure → LookupFailure}
    (h : q.Course answer (fun e => e) CallFailure.Blameless y) (hg : ∀ e, (g e).call? = some e)
    (check : Except Misconfiguration Unit) :
    q.Course answer g LookupFailure.Blameless
      (do .ofExcept (check.mapError .misconfigured); y.mapFailure g) := by
  cases check with
  | error m =>
    refine .refused ?_
    intro cause hc
    cases hc
  | ok u =>
    cases h with
    | @refused e hrefused =>
      refine .refused ?_
      intro cause hc
      rwa [← Option.some.inj ((hg e).symm.trans hc)]
    | failed hr hfit => exact .failed hr hfit
    | read hr hfit => exact .read hr hfit

end Errand

theorem blameless_unfitFailure (host id : String) : (Settings.unfitFailure host id).Blameless := trivial

namespace Lookup

theorem course_flow (s : Settings) (answer : Request → Except CallFailure Response) (apiKey id : String) :
    (flowErrand s apiKey id).Course answer (fun e => e) CallFailure.Blameless
      (flow s (.answering answer) apiKey id) := by
  by_cases h : Settings.Unfit id
  · rw [flow_of_error (by rw [Settings.flowUrl_eq, if_pos h])]
    exact .refused (blameless_unfitFailure s.flowHost id)
  · have hurl : s.flowUrl id = .ok (s.flowBase ++ Settings.encodedId id) := by rw [Settings.flowUrl_eq, if_neg h]
    have hr : (flowErrand s apiKey id).asks ⟨s.flowBase ++ Settings.encodedId id, apiKey⟩ := ⟨rfl, hurl⟩
    rw [flow_of_ok hurl]
    exact Errand.course_of_asked hr

theorem course_clusters (s : Settings) (answer : Request → Except CallFailure Response) (bucket : String) :
    (clustersErrand s bucket).Course answer (fun e => e) CallFailure.Blameless
      (clusters s (.answering answer) bucket) := by
  by_cases h : Settings.Unfit bucket
  · rw [clusters_of_error (by rw [Settings.bucketUrl_eq, if_pos h])]
    exact .refused (blameless_unfitFailure s.clusterHost bucket)
  · have hurl : s.bucketUrl bucket = .ok (s.bucketBase ++ Settings.encodedId bucket ++ "/clusters") := by
      rw [Settings.bucketUrl_eq, if_neg h]
    have hr : (clustersErrand s bucket).asks ⟨s.bucketBase ++ Settings.encodedId bucket ++ "/clusters", s.masterKey⟩ :=
      ⟨rfl, hurl⟩
    rw [clusters_of_ok hurl]
    exact Errand.course_of_asked hr

end Lookup

namespace Resolution

theorem course_flow (s : Settings) (answer : Request → Except CallFailure Response) (apiKey id : String) :
    (flowErrand s apiKey id).Course answer .flow LookupFailure.Blameless (flow s (.answering answer) apiKey id) :=
  (Lookup.course_flow s answer apiKey id).checked (fun _ => rfl) s.checkFlow

theorem course_clusters (s : Settings) (answer : Request → Except CallFailure Response) (bucket : String) :
    (clustersErrand s bucket).Course answer .clusters LookupFailure.Blameless
      (clusters s (.answering answer) bucket) :=
  (Lookup.course_clusters s answer bucket).checked (fun _ => rfl) s.checkClusters

end Resolution

namespace Step

/-- The key and the flow of a call that resolves a flow to a cluster. -/
def resolution? : Step → Option (String × String)
  | .resolve apiKey id _ => some (apiKey, id)
  | .resolveStrict apiKey id _ => some (apiKey, id)
  | _ => none

/-- What stops a call whose flow is not brought. -/
def flowFailure (cause : CallFailure) : Step → StepFailure
  | .flowUnchecked .. => .call cause
  | _ => .lookup (.flow cause)

/-- What stops a call whose clusters are not brought. -/
def clustersFailure (cause : CallFailure) : Step → StepFailure
  | .clustersUnchecked _ => .call cause
  | _ => .lookup (.clusters cause)

theorem call?_flowFailure {x : Step} {cause : CallFailure} : (x.flowFailure cause).call? = some cause := by
  cases x <;> rfl

theorem call?_clustersFailure {x : Step} {cause : CallFailure} : (x.clustersFailure cause).call? = some cause := by
  cases x <;> rfl

/-- What a call has asked and reported when it comes to the clusters of a bucket. -/
inductive Opening (s : Settings) (answer : Request → Except CallFailure Response) (x : Step) :
    (bucket : String) → List Request → List Event → Prop
  | given {bucket : String} (hx : x = .clusters bucket ∨ x = .clustersUnchecked bucket) : Opening s answer x bucket [] []
  | named {r : Request} {id : String} {f : Flow} (hx : x.resolution? = some (r.apiKey, id))
      (hr : s.flowUrl id = .ok r.url) (h : fitRecord Flow.decoder r.url (answer r) = .ok f) :
      Opening s answer x f.bucket [r] [.fetchingFlow r.url, .flowResolved id f.bucket f.team.slug]

/-- The event that a resolution ends with if it gives a cluster. -/
inductive Concludes (bucket : String) (c : Cluster) : Step → Event → Prop
  | lenient (apiKey id identifier : String) :
      Concludes bucket c (.resolve apiKey id identifier) (Resolution.outcome id bucket identifier c)
  | strict (apiKey id identifier : String) :
      Concludes bucket c (.resolveStrict apiKey id identifier) (.resolved id bucket identifier)

/-- The courses of a call. -/
inductive Course (s : Settings) (answer : Request → Except CallFailure Response) (x : Step) :
    Attempt Request StepFailure Answer → Prop
  | flowRefused {f : StepFailure} (h : f.Blameless) : Course s answer x ⟨.error f, [], []⟩
  | flowFailed {id : String} {r : Request} {cause : CallFailure} (hx : x.flowCall? = some (r.apiKey, id))
      (hr : s.flowUrl id = .ok r.url) (h : fitRecord Flow.decoder r.url (answer r) = .error cause) :
      Course s answer x ⟨.error (x.flowFailure cause), [r], (flowErrand s r.apiKey id).report answer r⟩
  | flowRead {id : String} {r : Request} {f : Flow} (hx : x.flowCall? = some (r.apiKey, id))
      (hx' : x.resolution? = none) (hr : s.flowUrl id = .ok r.url)
      (h : fitRecord Flow.decoder r.url (answer r) = .ok f) :
      Course s answer x ⟨.ok (.flow f), [r], [.fetchingFlow r.url]⟩
  | clustersRefused {bucket : String} {seen : List Request} {events : List Event} {f : StepFailure}
      (ho : Opening s answer x bucket seen events) (h : f.Blameless) : Course s answer x ⟨.error f, seen, events⟩
  | clustersFailed {bucket : String} {seen : List Request} {events : List Event} {r : Request} {cause : CallFailure}
      (ho : Opening s answer x bucket seen events) (hr : (clustersErrand s bucket).asks r)
      (h : fitRecord (Json.list Cluster.decoder) r.url (answer r) = .error cause) :
      Course s answer x
        ⟨.error (x.clustersFailure cause), seen ++ [r], events ++ (clustersErrand s bucket).report answer r⟩
  | clustersRead {bucket : String} {r : Request} {cs : List Cluster}
      (hx : x = .clusters bucket ∨ x = .clustersUnchecked bucket) (hr : (clustersErrand s bucket).asks r)
      (h : fitRecord (Json.list Cluster.decoder) r.url (answer r) = .ok cs) :
      Course s answer x ⟨.ok (.clusters cs), [r], [.fetchingClusters r.url]⟩
  | missed {bucket identifier : String} {seen : List Request} {events : List Event} {r : Request} {cs : List Cluster}
      (ho : Opening s answer x bucket seen events) (hr : (clustersErrand s bucket).asks r)
      (h : fitRecord (Json.list Cluster.decoder) r.url (answer r) = .ok cs) :
      Course s answer x ⟨.error (.lookup (.clusterNotFound bucket identifier)), seen ++ [r],
        events ++ [.fetchingClusters r.url]⟩
  | concluded {bucket : String} {seen : List Request} {events : List Event} {r : Request} {cs : List Cluster}
      {c : Cluster} {e : Event} (ho : Opening s answer x bucket seen events) (hr : (clustersErrand s bucket).asks r)
      (h : fitRecord (Json.list Cluster.decoder) r.url (answer r) = .ok cs) (he : Concludes bucket c x e) :
      Course s answer x ⟨.ok (.cluster c), seen ++ [r], events ++ [.fetchingClusters r.url, e]⟩

variable {x : Step} {seen : List Request} {events : List Event} {wrap : CallFailure → ε} {refusal : ε → Prop}

/-- A call for a bucket that is given or named by its flow asks about no other. -/
theorem Opening.names (h : Opening s answer x bucket seen events) : x.Names s answer bucket := by
  cases h with
  | given hx => rcases hx with rfl | rfl <;> rfl
  | @named r id f hx hr hfit =>
    obtain ⟨own, body, ha, hd⟩ := Lookup.fitRecord_eq_ok_iff.mp hfit
    have hnames : FlowNames s answer r.apiKey id f.bucket := ⟨r.url, own, body, f, hr, ha, hd, rfl⟩
    cases x with
    | resolve apiKey id identifier => cases hx; exact hnames
    | resolveStrict apiKey id identifier => cases hx; exact hnames
    | _ => cases hx

theorem Opening.bucketRequest {r : Request} (h : Opening s answer x bucket seen events)
    (hr : (clustersErrand s bucket).asks r) : x.BucketRequest s answer r := ⟨hr.1, bucket, h.names, hr.2⟩

private theorem course_of_flow {y : Attempt Request ε Flow} {g : ε → StepFailure}
    (h : (flowErrand s apiKey id).Course answer wrap refusal y) (hx : x.flowCall? = some (apiKey, id))
    (hx' : x.resolution? = none) (hwrap : ∀ cause, g (wrap cause) = x.flowFailure cause)
    (hrefusal : ∀ e, refusal e → (g e).Blameless) :
    x.Course s answer ((Answer.flow <$> y).mapFailure g) := by
  cases h with
  | refused hrefused => exact .flowRefused (hrefusal _ hrefused)
  | @failed r cause hr hfit =>
    obtain ⟨rfl, hurl⟩ := hr
    have hcourse : x.Course s answer _ := .flowFailed hx hurl hfit
    rwa [← hwrap] at hcourse
  | @read r f hr hfit =>
    obtain ⟨rfl, hurl⟩ := hr
    exact .flowRead hx hx' hurl hfit

private theorem course_of_clusters {y : Attempt Request ε (List Cluster)} {g : ε → StepFailure}
    (h : (clustersErrand s bucket).Course answer wrap refusal y)
    (hx : x = .clusters bucket ∨ x = .clustersUnchecked bucket)
    (hwrap : ∀ cause, g (wrap cause) = x.clustersFailure cause) (hrefusal : ∀ e, refusal e → (g e).Blameless) :
    x.Course s answer ((Answer.clusters <$> y).mapFailure g) := by
  cases h with
  | refused hrefused => exact .clustersRefused (.given hx) (hrefusal _ hrefused)
  | @failed r cause hr hfit =>
    have hcourse : x.Course s answer _ := .clustersFailed (.given hx) hr hfit
    rwa [← hwrap] at hcourse
  | read hr hfit => exact .clustersRead hx hr hfit

theorem flowCall?_of_resolution? (h : x.resolution? = some (apiKey, id)) : x.flowCall? = some (apiKey, id) := by
  cases x <;> first | exact h | cases h

theorem flowFailure_of_resolution? (h : x.resolution? = some (apiKey, id)) (cause : CallFailure) :
    x.flowFailure cause = .lookup (.flow cause) := by
  cases x <;> first | rfl | cases h

theorem clustersFailure_of_resolution? (h : x.resolution? = some (apiKey, id)) (cause : CallFailure) :
    x.clustersFailure cause = .lookup (.clusters cause) := by
  cases x <;> first | rfl | cases h

/-- The two lookups of a resolution end the call, or bring a list of clusters to select from. -/
private theorem course_bucketClusters (s : Settings) (answer : Request → Except CallFailure Response)
    (hx : x.resolution? = some (apiKey, id)) :
    (∃ e seen events, Resolution.bucketClusters s (.answering answer) apiKey id = ⟨.error e, seen, events⟩ ∧
      x.Course s answer ⟨.error (.lookup e), seen, events⟩) ∨
    ∃ bucket cs seen events r, Opening s answer x bucket seen events ∧ (clustersErrand s bucket).asks r ∧
      fitRecord (Json.list Cluster.decoder) r.url (answer r) = .ok cs ∧
      Resolution.bucketClusters s (.answering answer) apiKey id =
        ⟨.ok (bucket, cs), seen ++ [r], events ++ [.fetchingClusters r.url]⟩ := by
  have hflow := Resolution.course_flow s answer apiKey id
  rw [Resolution.bucketClusters]
  generalize Resolution.flow s (.answering answer) apiKey id = y at hflow ⊢
  cases hflow with
  | @refused e h => exact .inl ⟨e, [], [], rfl, .flowRefused h⟩
  | @failed r cause hr h =>
    obtain ⟨rfl, hurl⟩ := hr
    refine .inl ⟨.flow cause, [r], (flowErrand s r.apiKey id).report answer r, rfl, ?_⟩
    rw [← flowFailure_of_resolution? hx]
    exact .flowFailed (flowCall?_of_resolution? hx) hurl h
  | @read r f hr h =>
    obtain ⟨rfl, hurl⟩ := hr
    have hopening : Opening s answer x f.bucket _ _ := .named hx hurl h
    have hclusters := Resolution.course_clusters s answer f.bucket
    rw [Attempt.bind_of_ok rfl]
    generalize Resolution.clusters s (.answering answer) f.bucket = z at hclusters ⊢
    cases hclusters with
    | @refused e h' => exact .inl ⟨e, _, _, rfl, .clustersRefused hopening h'⟩
    | @failed r' cause hr' h' =>
      refine .inl ⟨.clusters cause, _, _, rfl, ?_⟩
      rw [← clustersFailure_of_resolution? hx]
      exact .clustersFailed hopening hr' h'
    | @read r' cs hr' h' => exact .inr ⟨f.bucket, cs, _, _, r', hopening, hr', h', rfl⟩

private theorem course_of_resolution {k : String × List Cluster → Attempt Request LookupFailure Cluster}
    (hx : x.resolution? = some (apiKey, id))
    (hk : ∀ bucket cs, (∃ identifier, k (bucket, cs) = ⟨.error (.clusterNotFound bucket identifier), [], []⟩) ∨
      ∃ c e, Concludes bucket c x e ∧ k (bucket, cs) = ⟨.ok c, [], [e]⟩) :
    x.Course s answer
      ((Answer.cluster <$> (Resolution.bucketClusters s (.answering answer) apiKey id >>= k)).mapFailure .lookup) := by
  rcases course_bucketClusters s answer hx with
    ⟨e, seen, events, heq, h⟩ | ⟨bucket, cs, seen, events, r, ho, hr, h, heq⟩
  · rw [heq]
    exact h
  · rw [heq, Attempt.bind_of_ok rfl]
    rcases hk bucket cs with ⟨identifier, hk⟩ | ⟨c, e, he, hk⟩
    · rw [hk, List.append_nil, List.append_nil]
      exact .missed ho hr h
    · rw [hk, List.append_nil, List.append_assoc, Attempt.map_mk_ok]
      exact .concluded ho hr h he

/-- Every call takes one of the courses. -/
theorem course_run (s : Settings) (answer : Request → Except CallFailure Response) (x : Step) :
    x.Course s answer (x.run s (.answering answer)) := by
  cases x with
  | resolve apiKey id identifier =>
    refine course_of_resolution rfl ?_
    intro bucket cs
    exact .inr ⟨_, _, .lenient apiKey id identifier, rfl⟩
  | resolveStrict apiKey id identifier =>
    refine course_of_resolution rfl ?_
    intro bucket cs
    cases hl : Selection.last? cs identifier with
    | none => exact .inl ⟨identifier, by simp only [Selection.selectStrict_of_none hl]; rfl⟩
    | some c => exact .inr ⟨c, _, .strict apiKey id identifier, by simp only [Selection.selectStrict_of_some hl]; rfl⟩
  | flow apiKey id =>
    exact course_of_flow (Resolution.course_flow s answer apiKey id) rfl rfl (fun _ => rfl) fun _ h => h
  | clusters bucket =>
    exact course_of_clusters (Resolution.course_clusters s answer bucket) (.inl rfl) (fun _ => rfl) fun _ h => h
  | flowUnchecked apiKey id =>
    refine course_of_flow (Lookup.course_flow s answer apiKey id) rfl rfl (fun _ => rfl) ?_
    rintro e h cause hc
    rwa [← Option.some.inj hc]
  | clustersUnchecked bucket =>
    refine course_of_clusters (Lookup.course_clusters s answer bucket) (.inr rfl) (fun _ => rfl) ?_
    rintro e h cause hc
    rwa [← Option.some.inj hc]

end Step

end FlowCluster
