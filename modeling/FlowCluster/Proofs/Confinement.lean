import FlowCluster.Proofs.Exchange
import FlowCluster.Proofs.Lookup
import FlowCluster.Proofs.Settings.Address
import FlowCluster.Session
import Mathlib.Logic.Basic

/-! # Where the keys go

A call sends at most one request for a flow, with the key of its caller, and after it at most one request for the
clusters of a bucket, with the master key. The bucket is the argument of the call or the one that its own flow answer
names. Whatever bytes name it, the master key goes to one segment below the buckets of the cluster directory. -/

namespace FlowCluster

/-! ## Facts about every call of a session

A session changes nothing but the pages of its directory, and only where an entry says so. What holds of one call over
any directory therefore holds of every call of every session. -/

/-- Every call of a session is as `P` says, where the directory is the one that answers the call. -/
inductive EachCall (P : Directory → Step → Attempt Request StepFailure Answer → Prop) :
    Directory → List SessionEntry → List (Option (Attempt Request StepFailure Answer)) → Prop
  | done (d : Directory) : EachCall P d [] []
  | step {d : Directory} {x : Step} {a} {entries attempts} (h : P d x a) (rest : EachCall P d entries attempts) :
      EachCall P d (.step x :: entries) (some a :: attempts)
  | publish {d : Directory} {url : String} {page : Page} {entries attempts}
      (rest : EachCall P (d.publish url page) entries attempts) :
      EachCall P d (.publish url page :: entries) (none :: attempts)

theorem eachCall_runSession {P : Directory → Step → Attempt Request StepFailure Answer → Prop} {s : Settings}
    (h : ∀ d x, P d x (x.run s d.transport)) (d : Directory) (entries : List SessionEntry) :
    EachCall P d entries (runSession s d entries) := by
  induction entries generalizing d with
  | nil => exact .done d
  | cons entry entries ih =>
    cases entry with
    | step x => exact .step (h d x) (ih d)
    | publish url page => exact .publish (ih (d.publish url page))

/-! ## Requests and keys -/

/-- No request, or one of a kind. -/
def AtMostOne (P : Request → Prop) (seen : List Request) : Prop := seen = [] ∨ ∃ r, P r ∧ seen = [r]

theorem AtMostOne.mono {P Q : Request → Prop} {seen : List Request} (h : AtMostOne P seen) (hPQ : ∀ r, P r → Q r) :
    AtMostOne Q seen := by
  rcases h with rfl | ⟨r, hr, rfl⟩
  · exact .inl rfl
  · exact .inr ⟨r, hPQ r hr, rfl⟩

theorem AtMostOne.of_mem {P : Request → Prop} {seen : List Request} (h : AtMostOne P seen) {r : Request} (hr : r ∈ seen) :
    P r := by
  rcases h with rfl | ⟨q, hq, rfl⟩
  · cases hr
  · rwa [List.mem_singleton.mp hr]

namespace Step

/-- The key and the flow that a call asks the flow directory about. -/
def flowCall? : Step → Option (String × String)
  | .resolve apiKey id _ => some (apiKey, id)
  | .resolveStrict apiKey id _ => some (apiKey, id)
  | .flow apiKey id => some (apiKey, id)
  | .flowUnchecked apiKey id => some (apiKey, id)
  | .clusters _ => none
  | .clustersUnchecked _ => none

/-- The flow answer to a caller decodes to a flow of the bucket. -/
def FlowNames (s : Settings) (answer : Request → Except CallFailure Response) (apiKey id bucket : String) : Prop :=
  ∃ url own body f, s.flowUrl id = .ok url ∧ answer ⟨url, apiKey⟩ = .ok ⟨own, 200, some body⟩ ∧
    Json.read Flow.decoder body = .ok f ∧ f.team.bucket = bucket

/-- The buckets that a call may ask the cluster directory about. -/
def Names (s : Settings) (answer : Request → Except CallFailure Response) (bucket : String) : Step → Prop
  | .resolve apiKey id _ => FlowNames s answer apiKey id bucket
  | .resolveStrict apiKey id _ => FlowNames s answer apiKey id bucket
  | .clusters b => bucket = b
  | .clustersUnchecked b => bucket = b
  | .flow _ _ => False
  | .flowUnchecked _ _ => False

/-- The request for the flow of a call, with the key of its caller. -/
def FlowRequest (s : Settings) (x : Step) (r : Request) : Prop :=
  ∃ id, x.flowCall? = some (r.apiKey, id) ∧ s.flowUrl id = .ok r.url

/-- The request for the clusters of a bucket of a call, with the master key. -/
def BucketRequest (s : Settings) (answer : Request → Except CallFailure Response) (x : Step) (r : Request) : Prop :=
  r.apiKey = s.masterKey ∧ ∃ bucket, x.Names s answer bucket ∧ s.bucketUrl bucket = .ok r.url

section

variable {s : Settings} {answer : Request → Except CallFailure Response} {x : Step} {r r' : Request}

/-- A call has one request for a flow at most. -/
theorem FlowRequest.unique (h : x.FlowRequest s r) (h' : x.FlowRequest s r') : r = r' := by
  obtain ⟨id, hx, hu⟩ := h
  obtain ⟨id', hx', hu'⟩ := h'
  have hcall : (r.apiKey, id) = (r'.apiKey, id') := Option.some.inj (hx.symm.trans hx')
  obtain ⟨hkey, rfl⟩ := Prod.mk.inj hcall
  exact congrArg₂ Request.mk (Except.ok.inj (hu.symm.trans hu')) hkey

theorem FlowNames.unique {apiKey id bucket bucket' : String} (h : FlowNames s answer apiKey id bucket)
    (h' : FlowNames s answer apiKey id bucket') : bucket = bucket' := by
  obtain ⟨url, own, body, f, hu, ha, hd, rfl⟩ := h
  obtain ⟨url', own', body', f', hu', ha', hd', rfl⟩ := h'
  cases hu.symm.trans hu'
  cases ha.symm.trans ha'
  cases hd.symm.trans hd'
  rfl

theorem Names.unique {bucket bucket' : String} (h : x.Names s answer bucket) (h' : x.Names s answer bucket') :
    bucket = bucket' := by
  cases x with
  | resolve apiKey id identifier => exact FlowNames.unique h h'
  | resolveStrict apiKey id identifier => exact FlowNames.unique h h'
  | clusters b => exact Eq.trans h (Eq.symm h')
  | clustersUnchecked b => exact Eq.trans h (Eq.symm h')
  | flow apiKey id => exact h.elim
  | flowUnchecked apiKey id => exact h.elim

theorem BucketRequest.unique (h : x.BucketRequest s answer r) (h' : x.BucketRequest s answer r') : r = r' := by
  obtain ⟨hkey, bucket, hn, hu⟩ := h
  obtain ⟨hkey', bucket', hn', hu'⟩ := h'
  cases hn.unique hn'
  exact congrArg₂ Request.mk (Except.ok.inj (hu.symm.trans hu')) (hkey.trans hkey'.symm)

end

/-- What directories may see of a call. -/
structure Confined (s : Settings) (answer : Request → Except CallFailure Response) (x : Step)
    (seen : List Request) : Prop where
  ordered : ∃ flows buckets, seen = flows ++ buckets ∧ AtMostOne (x.FlowRequest s) flows ∧
    AtMostOne (x.BucketRequest s answer) buckets
  one_segment : ∀ r ∈ seen, x.FlowRequest s r ∨ r.apiKey = s.masterKey ∧ ∃ seg, Settings.IsSegment seg ∧
    r.url = s.scheme ++ "://" ++ s.clusterHost ++ "/api/bucket/" ++ seg ++ "/clusters"

variable {s : Settings} {answer : Request → Except CallFailure Response × List Event}

/-- The second half of confinement comes from the first: an address of a bucket holds it in one segment. -/
theorem Confined.of_ordered {answer : Request → Except CallFailure Response} {x : Step} {flows buckets : List Request}
    (hf : AtMostOne (x.FlowRequest s) flows) (hb : AtMostOne (x.BucketRequest s answer) buckets) :
    x.Confined s answer (flows ++ buckets) := by
  refine ⟨⟨flows, buckets, rfl, hf, hb⟩, fun r hr => ?_⟩
  rcases List.mem_append.mp hr with hr | hr
  · exact .inl (hf.of_mem hr)
  · obtain ⟨hk, bucket, -, hu⟩ := hb.of_mem hr
    exact .inr ⟨hk, Settings.exists_segment_of_bucketUrl hu⟩

theorem atMostOne_flowRequest {x : Step} {apiKey id : String} {seen : List Request}
    (hx : x.flowCall? = some (apiKey, id)) (h : AtMostOne (fun r => r.apiKey = apiKey ∧ s.flowUrl id = .ok r.url) seen) :
    AtMostOne (x.FlowRequest s) seen := h.mono fun r hr => ⟨id, by rw [hx, hr.1], hr.2⟩

theorem atMostOne_bucketRequest {x : Step} {answer : Request → Except CallFailure Response} {bucket : String}
    {seen : List Request} (hb : x.Names s answer bucket)
    (h : AtMostOne (fun r => r.apiKey = s.masterKey ∧ s.bucketUrl bucket = .ok r.url) seen) :
    AtMostOne (x.BucketRequest s answer) seen := h.mono fun _ hr => ⟨hr.1, bucket, hb, hr.2⟩

theorem atMostOne_lookup_flow (apiKey id : String) :
    AtMostOne (fun r => r.apiKey = apiKey ∧ s.flowUrl id = .ok r.url)
      (Lookup.flow s (.recording answer) apiKey id).seen := by
  rw [Lookup.flow_seen]
  split
  · next url h => exact .inr ⟨⟨url, apiKey⟩, ⟨rfl, h⟩, rfl⟩
  · exact .inl rfl

theorem atMostOne_lookup_clusters (bucket : String) :
    AtMostOne (fun r => r.apiKey = s.masterKey ∧ s.bucketUrl bucket = .ok r.url)
      (Lookup.clusters s (.recording answer) bucket).seen := by
  rw [Lookup.clusters_seen]
  split
  · next url h => exact .inr ⟨⟨url, s.masterKey⟩, ⟨rfl, h⟩, rfl⟩
  · exact .inl rfl

theorem atMostOne_flow (apiKey id : String) :
    AtMostOne (fun r => r.apiKey = apiKey ∧ s.flowUrl id = .ok r.url)
      (Resolution.flow s (.recording answer) apiKey id).seen := by
  rw [Resolution.flow_seen]
  split
  · exact atMostOne_lookup_flow apiKey id
  · exact .inl rfl

theorem atMostOne_clusters (bucket : String) :
    AtMostOne (fun r => r.apiKey = s.masterKey ∧ s.bucketUrl bucket = .ok r.url)
      (Resolution.clusters s (.recording answer) bucket).seen := by
  rw [Resolution.clusters_seen]
  split
  · exact atMostOne_lookup_clusters bucket
  · exact .inl rfl

theorem flowNames_of_flow {apiKey id : String} {f : Flow}
    (h : (Resolution.flow s (.recording answer) apiKey id).result = .ok f) :
    FlowNames s (fun r => (answer r).1) apiKey id f.bucket := by
  obtain ⟨url, hu, hr⟩ := Lookup.flow_eq_ok_iff.mp (Resolution.flow_eq_ok_iff.mp h).2
  obtain ⟨own, body, ha, hd⟩ := Lookup.fitRecord_eq_ok_iff.mp hr
  exact ⟨url, own, body, f, hu, ha, hd, rfl⟩

/-- The two lookups of a resolution, for a call that makes it with the key and the flow it was given. -/
theorem confined_bucketClusters {x : Step} {apiKey id : String} (hx : x.flowCall? = some (apiKey, id))
    (hn : ∀ bucket, FlowNames s (fun r => (answer r).1) apiKey id bucket → x.Names s (fun r => (answer r).1) bucket) :
    x.Confined s (fun r => (answer r).1) (Resolution.bucketClusters s (.recording answer) apiKey id).seen := by
  rw [Resolution.bucketClusters_seen]
  refine .of_ordered (atMostOne_flowRequest hx (atMostOne_flow apiKey id)) ?_
  split
  · next f hf => exact atMostOne_bucketRequest (hn _ (flowNames_of_flow hf)) (atMostOne_clusters f.bucket)
  · exact .inl rfl

theorem confined_flow {x : Step} {apiKey id : String} {seen : List Request} (hx : x.flowCall? = some (apiKey, id))
    (h : AtMostOne (fun r => r.apiKey = apiKey ∧ s.flowUrl id = .ok r.url) seen) :
    x.Confined s (fun r => (answer r).1) seen := by
  have hc : x.Confined s (fun r => (answer r).1) (seen ++ []) :=
    .of_ordered (atMostOne_flowRequest hx h) (.inl rfl)
  rwa [List.append_nil] at hc

/-- A call for the clusters of a bucket alone. -/
theorem confined_clusters {x : Step} {bucket : String} {seen : List Request}
    (hx : x.Names s (fun r => (answer r).1) bucket)
    (h : AtMostOne (fun r => r.apiKey = s.masterKey ∧ s.bucketUrl bucket = .ok r.url) seen) :
    x.Confined s (fun r => (answer r).1) seen :=
  .of_ordered (.inl rfl) (atMostOne_bucketRequest hx h)

theorem confined_run (answer : Request → Except CallFailure Response × List Event) (x : Step) :
    x.Confined s (fun r => (answer r).1) (x.run s (.recording answer)).seen := by
  cases x with
  | resolve apiKey id cluster =>
    rw [run, Attempt.mapFailure_seen, Attempt.map_seen, Resolution.resolve_seen]
    exact confined_bucketClusters rfl fun _ h => h
  | resolveStrict apiKey id cluster =>
    rw [run, Attempt.mapFailure_seen, Attempt.map_seen, Resolution.resolveStrict_seen]
    exact confined_bucketClusters rfl fun _ h => h
  | flow apiKey id =>
    rw [run, Attempt.mapFailure_seen, Attempt.map_seen]
    exact confined_flow rfl (atMostOne_flow apiKey id)
  | clusters bucket =>
    rw [run, Attempt.mapFailure_seen, Attempt.map_seen]
    exact confined_clusters rfl (atMostOne_clusters bucket)
  | flowUnchecked apiKey id =>
    rw [run, Attempt.mapFailure_seen, Attempt.map_seen]
    exact confined_flow rfl (atMostOne_lookup_flow apiKey id)
  | clustersUnchecked bucket =>
    rw [run, Attempt.mapFailure_seen, Attempt.map_seen]
    exact confined_clusters rfl (atMostOne_lookup_clusters bucket)

end Step

/-- Keys stay where they belong: in every call over every directory in memory, and so in every session, whose pages
may change between calls. -/
theorem keys_confined (s : Settings) :
    (∀ (answer : Request → Except CallFailure Response × List Event) (x : Step),
      x.Confined s (fun r => (answer r).1) (x.run s (.recording answer)).seen) ∧
    ∀ (d : Directory) (entries : List SessionEntry),
      EachCall (fun d x a => x.Confined s (fun r => (d.answer r.url).1) a.seen) d entries (runSession s d entries) :=
  ⟨Step.confined_run, eachCall_runSession fun d => Step.confined_run fun r => d.answer r.url⟩

end FlowCluster
