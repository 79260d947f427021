import FlowCluster.Proofs.Course
import FlowCluster.Proofs.Excerpt

/-! # When a body is shown

The body of an answer comes into the log only as an excerpt, once, and only if the call fails for it: because the status
of the answer is not 200, or because the body is not the document that was asked for. A failure of the same kind that
the directory hands over shows no body, since there is none. -/

namespace FlowCluster

open Lookup (fitRecord aftermath)

variable {α : Type}

namespace Event

/-- The body that an event is about. -/
def body? : Event → Option Bytes
  | .statusNotOk _ _ body => some body
  | .decodingFailed _ _ body => some body
  | _ => none

/-- Whether an event has a field for a body. -/
def showsBody (e : Event) : Bool := (e.fields.lookup "body").isSome

/-- The field for a body holds an excerpt of the body that the event is about. -/
theorem lookup_body (e : Event) : e.fields.lookup "body" = e.body?.map fun body => .text (excerpt body) := by
  cases e <;> rfl

end Event

namespace Lookup

/-- An answer with a body that cannot be used: its status is not 200, or the body does not decode. -/
inductive Faulty (decoder : Json.Decoder α) (body : Bytes) : Except CallFailure Response → Prop
  | status {own : String} {status : UInt16} (h : status ≠ 200) : Faulty decoder body (.ok ⟨own, status, some body⟩)
  | document {own : String} (h : ∀ x, Json.read decoder body ≠ .ok x) : Faulty decoder body (.ok ⟨own, 200, some body⟩)

/-- An answer that brings a body, whatever it is. -/
def BringsBody (answer : Except CallFailure Response) : Prop :=
  ∃ own status body, answer = .ok ⟨own, status, some body⟩

variable {decoder : Json.Decoder α} {url : String} {body body' : Bytes} {a : Except CallFailure Response}
  {cause : CallFailure}

theorem Faulty.bringsBody (h : Faulty decoder body a) : BringsBody a := by
  cases h with
  | status h => exact ⟨_, _, body, rfl⟩
  | document h => exact ⟨_, _, body, rfl⟩

theorem Faulty.body_unique (h : Faulty decoder body a) (h' : Faulty decoder body' a) : body = body' := by
  cases h <;> cases h' <;> rfl

theorem bringsBody_of_read {x : α} (h : fitRecord decoder url a = .ok x) : BringsBody a := by
  obtain ⟨own, body, ha, -⟩ := fitRecord_eq_ok_iff.mp h
  exact ⟨own, 200, body, ha⟩

/-- An answer that is read has nothing wrong with it. -/
theorem not_faulty_of_read {x : α} (h : fitRecord decoder url a = .ok x) : ¬Faulty decoder body a := by
  obtain ⟨own, body', rfl, hread⟩ := fitRecord_eq_ok_iff.mp h
  intro hfaulty
  cases hfaulty with
  | status hs => exact hs rfl
  | document hd => exact hd x hread

/-- The failure for an answer whose body cannot be used is not that of a request. -/
theorem Faulty.not_blameless (h : Faulty decoder body a) (hfit : fitRecord decoder url a = .error cause) :
    ¬cause.Blameless := by
  cases h with
  | @status own status hs =>
    have hcause : CallFailure.status own status = cause := by
      simpa [fitRecord, Lookup.fitBody, hs, bind, Except.bind] using hfit
    subst hcause
    exact id
  | document hd =>
    cases hread : Json.read decoder body with
    | ok x => exact absurd hread (hd x)
    | error rejection =>
      have hcause : CallFailure.decode url rejection = cause := by
        simpa [fitRecord, Lookup.fitBody, hread, bind, Except.bind, Except.mapError] using hfit
      subst hcause
      exact id

/-- After a failure, either the answer is to blame and its body is shown once, or there is no body to show. -/
theorem aftermath_shows (h : fitRecord decoder url a = .error cause) {failed : CallFailure → Event}
    (hf : ∀ e, (failed e).showsBody = false) :
    (∃ body e, Faulty decoder body a ∧ (aftermath decoder failed url a).filter (·.showsBody) = [e] ∧
      e.level = .debug ∧ e.body? = some body) ∨
    (aftermath decoder failed url a).filter (·.showsBody) = [] ∧ ¬BringsBody a := by
  cases a with
  | error e =>
    refine .inr ⟨by simp [aftermath, hf], ?_⟩
    rintro ⟨own, status, body, ha⟩
    cases ha
  | ok r =>
    obtain ⟨own, status, body?⟩ := r
    cases body? with
    | none =>
      refine .inr ⟨by simp [aftermath, hf], ?_⟩
      rintro ⟨own', status', body, ha⟩
      cases ha
    | some body =>
      by_cases hs : status = 200
      · subst hs
        cases hd : Json.read decoder body with
        | ok x => simp [fitRecord, Lookup.fitBody, hd, bind, Except.bind, Except.mapError] at h
        | error rejection =>
          have hevents : aftermath decoder failed url (.ok ⟨own, 200, some body⟩) =
              [.decodingFailed url rejection body] := by simp [aftermath, hd]
          have hunread : ∀ x, Json.read decoder body ≠ .ok x := by simp [hd]
          exact .inl ⟨body, _, .document hunread, by rw [hevents]; rfl, rfl, rfl⟩
      · have hevents : aftermath decoder failed url (.ok ⟨own, status, some body⟩) =
            [.statusNotOk own status body, failed (.status own status)] := by simp [aftermath, hs]
        refine .inl ⟨body, .statusNotOk own status body, .status hs, ?_, rfl, rfl⟩
        rw [hevents, List.filter_cons_of_pos rfl, List.filter_cons_of_neg (by simp [hf])]
        rfl

end Lookup

open Lookup (Faulty BringsBody)

variable {s : Settings} {answer : Request → Except CallFailure Response}

/-- What is reported of a request whose answer fails shows the body of the answer once, if it is to blame. -/
theorem Errand.report_shows {q : Errand α} {r : Request} {cause : CallFailure}
    (h : fitRecord q.decoder r.url (answer r) = .error cause) (ha : (q.announce r.url).showsBody = false)
    (hf : ∀ e, (q.failed r.url e).showsBody = false) :
    (∃ body e, Faulty q.decoder body (answer r) ∧
      (q.report answer r).filter (·.showsBody) = [e] ∧ e.level = .debug ∧ e.body? = some body) ∨
    (q.report answer r).filter (·.showsBody) = [] ∧ ¬BringsBody (answer r) := by
  rw [report, List.filter_cons_of_neg (by simp [ha])]
  exact Lookup.aftermath_shows h hf

namespace Step

/-- An answer that a call got has a body that cannot be used. A call that asks for a flow does so first; what it asks for
next is a list of clusters, and so is what a call asks for that is given its bucket. -/
inductive Blames (answer : Request → Except CallFailure Response) (x : Step) : List Request → Request → Bytes → Prop
  | flow {r : Request} {later : List Request} {body : Bytes} (hx : x.flowCall?.isSome)
      (h : Faulty Flow.decoder body (answer r)) : Blames answer x (r :: later) r body
  | named {q r : Request} {body : Bytes} (hx : x.flowCall?.isSome)
      (h : Faulty (Json.list Cluster.decoder) body (answer r)) : Blames answer x [q, r] r body
  | given {r : Request} {body : Bytes} (hx : x.flowCall? = none)
      (h : Faulty (Json.list Cluster.decoder) body (answer r)) : Blames answer x [r] r body

/-- A call is stopped by what is wrong with the answer to a request: that for its flow, or that for the clusters. -/
inductive StoppedBy (s : Settings) (answer : Request → Except CallFailure Response) (x : Step) (r : Request) :
    StepFailure → Prop
  | flow {cause : CallFailure} (hr : x.FlowRequest s r) (h : fitRecord Flow.decoder r.url (answer r) = .error cause) :
      StoppedBy s answer x r (x.flowFailure cause)
  | clusters {cause : CallFailure} (hr : x.BucketRequest s answer r)
      (h : fitRecord (Json.list Cluster.decoder) r.url (answer r) = .error cause) :
      StoppedBy s answer x r (x.clustersFailure cause)

variable {x : Step} {body : Bytes} {f : StepFailure} {q r : Request} {cause : CallFailure}
  {a : Attempt Request StepFailure Answer} {bucket : String} {seen : List Request} {events : List Event}

/-- Before it comes to the clusters of a bucket, a call has got no answer with a body that cannot be used. -/
theorem Opening.not_blames (h : Opening s answer x bucket seen events) : ¬Blames answer x seen r body := by
  intro hb
  cases h with
  | given hx => cases hb
  | named hx hr hfit =>
    cases hb with
    | flow hx hfaulty => exact Lookup.not_faulty_of_read hfit hfaulty
    | given hnone hfaulty => cases hnone.symm.trans (flowCall?_of_resolution? hx)

/-- Once it asks for the clusters, only the answer to that request can be to blame. -/
theorem Opening.blames_iff (h : Opening s answer x bucket seen events) :
    Blames answer x (seen ++ [r]) q body ↔ q = r ∧ Faulty (Json.list Cluster.decoder) body (answer r) := by
  cases h with
  | given hx =>
    have hnone : x.flowCall? = none := by rcases hx with rfl | rfl <;> rfl
    constructor
    · intro hb
      cases hb with
      | flow hsome hfaulty => simp [hnone] at hsome
      | given _ hfaulty => exact ⟨rfl, hfaulty⟩
    · rintro ⟨rfl, hfaulty⟩
      exact .given hnone hfaulty
  | named hx hr hfit =>
    have hsome : x.flowCall?.isSome := by simp [flowCall?_of_resolution? hx]
    constructor
    · intro hb
      cases hb with
      | flow _ hfaulty => exact absurd hfaulty (Lookup.not_faulty_of_read hfit)
      | named _ hfaulty => exact ⟨rfl, hfaulty⟩
    · rintro ⟨rfl, hfaulty⟩
      exact .named hsome hfaulty

/-- While it has asked for its flow alone, it is the answer to that request. -/
theorem blames_flow_iff (hx : x.flowCall?.isSome) :
    Blames answer x [r] q body ↔ q = r ∧ Faulty Flow.decoder body (answer r) := by
  constructor
  · intro hb
    cases hb with
    | flow _ hfaulty => exact ⟨rfl, hfaulty⟩
    | given hnone _ => simp [hnone] at hx
  · rintro ⟨rfl, hfaulty⟩
    exact .flow hx hfaulty

/-- In which calls a body is shown, and which one. -/
structure ShowsBlamed (s : Settings) (answer : Request → Except CallFailure Response) (x : Step)
    (a : Attempt Request StepFailure Answer) : Prop where
  shown_iff : (∃ e ∈ a.events, e.showsBody = true) ↔ ∃ r body, x.Blames answer a.seen r body
  once : ∀ r body, x.Blames answer a.seen r body → ∃ e shown,
    a.events.filter (·.showsBody) = [e] ∧ e.level = .debug ∧ e.fields.lookup "body" = some (.text (excerpt body)) ∧
      shown.length ≤ 2048 ∧ excerpt body = if 2048 < body.length then shown ++ "..." else shown
  returned : ∀ r body, x.Blames answer a.seen r body → ∃ f, a.result = .error f ∧ x.StoppedBy s answer r f
  success : ∀ v, a.result = .ok v → a.events.filter (·.showsBody) = []
  blameless : ∀ f, a.result = .error f → f.Blameless → a.events.filter (·.showsBody) = []
  handed_over : ∀ r ∈ a.seen, ¬BringsBody (answer r) → a.events.filter (·.showsBody) = []

/-- A call that shows a body: one, of the answer that is to blame, after requests that all brought a body. -/
private structure Shows (s : Settings) (answer : Request → Except CallFailure Response) (x : Step)
    (a : Attempt Request StepFailure Answer) (f : StepFailure) (r : Request) (body : Bytes) (e : Event) : Prop where
  result : a.result = .error f
  stopped : x.StoppedBy s answer r f
  blamed : ¬f.Blameless
  blames_iff : ∀ q body', Blames answer x a.seen q body' ↔ q = r ∧ body' = body
  event : a.events.filter (·.showsBody) = [e]
  level : e.level = .debug
  body : e.body? = some body
  brought : ∀ r ∈ a.seen, BringsBody (answer r)

/-- A call that shows none. -/
private structure Withholds (answer : Request → Except CallFailure Response) (x : Step)
    (a : Attempt Request StepFailure Answer) : Prop where
  none : a.events.filter (·.showsBody) = []
  unblamed : ∀ r body, ¬Blames answer x a.seen r body

private theorem Opening.withholds (h : Opening s answer x bucket seen events) :
    events.filter (·.showsBody) = [] := by
  cases h <;> rfl

private theorem Opening.brought (h : Opening s answer x bucket seen events) : ∀ r ∈ seen, BringsBody (answer r) := by
  intro r hr
  cases h with
  | given hx => cases hr
  | named hx hu hfit =>
    rw [List.mem_singleton.mp hr]
    exact Lookup.bringsBody_of_read hfit

/-- A list of clusters that is read is not to blame, and neither is anything before it. -/
private theorem Opening.not_blames_of_read (h : Opening s answer x bucket seen events) {cs : List Cluster}
    (hfit : fitRecord (Json.list Cluster.decoder) r.url (answer r) = .ok cs) : ¬Blames answer x (seen ++ [r]) q body :=
  fun hb => Lookup.not_faulty_of_read hfit (h.blames_iff.mp hb).2

private theorem Concludes.showsBody {c : Cluster} {e : Event} (h : Concludes bucket c x e) : e.showsBody = false := by
  cases h with
  | lenient apiKey id identifier => rw [Resolution.outcome]; split <;> rfl
  | strict apiKey id identifier => rfl

/-- After a request whose answer fails, it depends on who is to blame whether a body is shown. -/
private theorem failed_shows_or_withholds (errand : Errand α) (seen : List Request) (events : List Event)
    (h : fitRecord errand.decoder r.url (answer r) = .error cause) (ha : (errand.announce r.url).showsBody = false)
    (hf : ∀ e, (errand.failed r.url e).showsBody = false) (hstopped : x.StoppedBy s answer r f)
    (hcall : f.call? = some cause)
    (hblames : ∀ q body, Blames answer x (seen ++ [r]) q body ↔ q = r ∧ Faulty errand.decoder body (answer r))
    (hbrought : ∀ r ∈ seen, BringsBody (answer r)) (hnone : events.filter (·.showsBody) = []) :
    (∃ f' r' body e, Shows s answer x ⟨.error f, seen ++ [r], events ++ errand.report answer r⟩ f' r' body e) ∨
      Withholds answer x ⟨.error f, seen ++ [r], events ++ errand.report answer r⟩ := by
  rcases Errand.report_shows h ha hf with ⟨body, e, hfaulty, hevent, hlevel, hbody⟩ | ⟨hreport, hwithout⟩
  · refine .inl ⟨f, r, body, e, rfl, hstopped, ?_, ?_, ?_, hlevel, hbody, ?_⟩
    · exact fun hblameless => hfaulty.not_blameless h (hblameless cause hcall)
    · intro q body'
      rw [hblames]
      refine and_congr_right fun _ => ⟨fun hfaulty' => hfaulty'.body_unique hfaulty, ?_⟩
      rintro rfl
      exact hfaulty
    · rw [List.filter_append, hnone, hevent, List.nil_append]
    · intro r' hr'
      rcases List.mem_append.mp hr' with hr' | hr'
      · exact hbrought r' hr'
      · rw [List.mem_singleton.mp hr']
        exact hfaulty.bringsBody
  · refine .inr ⟨by rw [List.filter_append, hnone, hreport, List.nil_append], ?_⟩
    intro q body hb
    exact hwithout ((hblames q body).mp hb).2.bringsBody

private theorem shows_or_withholds (h : x.Course s answer a) :
    (∃ f r body e, Shows s answer x a f r body e) ∨ Withholds answer x a := by
  cases h with
  | flowRefused h => exact .inr ⟨rfl, fun r body hb => nomatch hb⟩
  | flowRead hx hx' hr h =>
    have hsome : x.flowCall?.isSome := by simp [hx]
    exact .inr ⟨rfl, fun r body hb => Lookup.not_faulty_of_read h ((blames_flow_iff hsome).mp hb).2⟩
  | clustersRefused ho h => exact .inr ⟨ho.withholds, fun r body => ho.not_blames⟩
  | @clustersRead bucket r cs hx hr h =>
    have ho : Opening s answer x bucket [] [] := .given hx
    exact .inr ⟨rfl, fun r body => ho.not_blames_of_read h⟩
  | @flowFailed id r cause hx hr h =>
    have hsome : x.flowCall?.isSome := by simp [hx]
    exact failed_shows_or_withholds (flowErrand s r.apiKey id) [] [] h rfl (fun _ => rfl)
      (.flow ⟨id, hx, hr⟩ h) call?_flowFailure (fun q body => blames_flow_iff hsome) (fun _ hr => by cases hr) rfl
  | @clustersFailed bucket seen events r cause ho hr h =>
    exact failed_shows_or_withholds (clustersErrand s bucket) seen events h rfl (fun _ => rfl)
      (.clusters (ho.bucketRequest hr) h) call?_clustersFailure (fun q body => ho.blames_iff) ho.brought ho.withholds
  | @missed bucket identifier seen events r cs ho hr h =>
    refine .inr ⟨?_, fun q body => ho.not_blames_of_read h⟩
    rw [List.filter_append, ho.withholds]
    rfl
  | @concluded bucket seen events r cs c e ho hr h he =>
    have hlast : [.fetchingClusters r.url, e].filter (·.showsBody) = [] :=
      (List.filter_cons_of_neg Bool.false_ne_true).trans (List.filter_cons_of_neg (by simp [he.showsBody]))
    refine .inr ⟨?_, fun q body => ho.not_blames_of_read h⟩
    rw [List.filter_append, ho.withholds, hlast, List.nil_append]

theorem Course.showsBlamed (h : x.Course s answer a) : x.ShowsBlamed s answer a := by
  have hmem : ∀ e, (e ∈ a.events ∧ e.showsBody = true) ↔ e ∈ a.events.filter (·.showsBody) := by
    intro e
    rw [List.mem_filter]
  rcases shows_or_withholds h with ⟨f, r, body, e, hs⟩ | hw
  · refine ⟨?_, ?_, ?_, ?_, ?_, ?_⟩
    · refine iff_of_true ⟨e, (hmem e).mpr ?_⟩ ⟨r, body, (hs.blames_iff r body).mpr ⟨rfl, rfl⟩⟩
      rw [hs.event]
      exact List.mem_singleton.mpr rfl
    · intro q body' hb
      obtain ⟨rfl, rfl⟩ := (hs.blames_iff q body').mp hb
      obtain ⟨shown, hlength, hexcerpt⟩ := excerpt_short body'
      refine ⟨e, shown, hs.event, hs.level, ?_, hlength, hexcerpt⟩
      rw [Event.lookup_body, hs.body]
      rfl
    · intro q body' hb
      obtain ⟨rfl, rfl⟩ := (hs.blames_iff q body').mp hb
      exact ⟨f, hs.result, hs.stopped⟩
    · intro v hv
      cases hs.result.symm.trans hv
    · intro f' hf hb
      cases hs.result.symm.trans hf
      exact absurd hb hs.blamed
    · intro r hr hwithout
      exact absurd (hs.brought r hr) hwithout
  · refine ⟨?_, fun r body hb => absurd hb (hw.unblamed r body), fun r body hb => absurd hb (hw.unblamed r body),
      fun _ _ => hw.none, fun _ _ _ => hw.none, fun _ _ _ => hw.none⟩
    refine iff_of_false ?_ ?_
    · rintro ⟨e, he⟩
      have hnone := (hmem e).mp he
      rw [hw.none] at hnone
      cases hnone
    · rintro ⟨r, body, hb⟩
      exact hw.unblamed r body hb

end Step

/-- Every call over every directory in memory shows a body only if the call fails for it, and then shows that body, once.
What the directory reports itself stands behind the announcements of the requests that it answers, and changes nothing
else. -/
theorem body_shown_on_failure (s : Settings) (answer : Request → Except CallFailure Response × List Event) (x : Step) :
    x.ShowsBlamed s (fun r => (answer r).1) (x.run s (.answering fun r => (answer r).1)) ∧
      x.run s (.recording answer) =
        (x.run s (.answering fun r => (answer r).1)).weave (reportsBehind s x.key fun r => (answer r).2) :=
  ⟨(Step.course_run s _ x).showsBlamed, Step.run_recording s answer x⟩

end FlowCluster
