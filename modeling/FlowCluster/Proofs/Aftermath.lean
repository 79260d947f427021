import FlowCluster.Proofs.Confinement
import Mathlib.Data.List.Basic

/-! # What is reported of an answer

A lookup announces its request, then the directory may report events of its own, and then the lookup says what is wrong
with the answer. So the events of a directory stand right behind the announcements. Without them, a call goes as over a
directory that answers the same and reports nothing. -/

namespace FlowCluster

/-- A directory in memory that answers and reports nothing. -/
def Transport.answering (answer : Request → Except CallFailure Response) : Transport Request :=
  .recording fun r => (answer r, [])

section

variable {ρ α : Type} {s : Settings} {t : Transport ρ} {apiKey id bucket url : String} {e : CallFailure}

namespace Lookup

/-- What a lookup reports of an answer to a request for `url`. Only an answer that is not fit to be read is reported
twice, once by the lookup that made the request. -/
def aftermath (decoder : Json.Decoder α) (failed : CallFailure → Event) (url : String) :
    Except CallFailure Response → List Event
  | .error e => [failed e]
  | .ok ⟨own, status, none⟩ => [failed (.emptyBody own status)]
  | .ok ⟨own, status, some body⟩ =>
    if status = 200 then
      match Json.read decoder body with
      | .ok _ => []
      | .error r => [.decodingFailed url r body]
    else [.statusNotOk own status body, failed (.status own status)]

/-- An answer is followed by an event of its body, or by one of the lookup that asked for it. -/
theorem forall_mem_aftermath {P : Event → Prop} (hs : ∀ own status body, P (.statusNotOk own status body))
    (hd : ∀ url r body, P (.decodingFailed url r body)) {failed : CallFailure → Event} (hf : ∀ e, P (failed e))
    (decoder : Json.Decoder α) (url : String) (answer : Except CallFailure Response) :
    ∀ e ∈ aftermath decoder failed url answer, P e := by
  unfold aftermath
  split
  · simp [hf]
  · simp [hf]
  · split
    · split
      · simp
      · simp [hd]
    · simp [hs, hf]

theorem document_events (t : Transport ρ) (decoder : Json.Decoder α) (failed : CallFailure → Event) (r : Request) :
    (document t decoder failed r).events =
      (t.fetch r).events ++ aftermath decoder failed r.url (t.fetch r).result := by
  simp only [document, Attempt.bind_events, Attempt.reportFailure_events, Attempt.reportFailure_result,
    Attempt.bind_result]
  cases (t.fetch r).result with
  | error e => simp [aftermath, bind, Except.bind]
  | ok a =>
    obtain ⟨own, status, body?⟩ := a
    cases body? with
    | none => simp [aftermath, readBody, bind, Except.bind]
    | some body =>
      by_cases hs : status = 200
      · cases hd : Json.read decoder body with
        | ok x => simp [aftermath, readBody, decodeBody, hs, hd, bind, Except.bind]
        | error rejection => simp [aftermath, readBody, decodeBody, hs, hd, bind, Except.bind]
      · simp [aftermath, readBody, hs, bind, Except.bind]

theorem document_eq (t : Transport ρ) (decoder : Json.Decoder α) (failed : CallFailure → Event) (r : Request) :
    document t decoder failed r = ⟨fitRecord decoder r.url (t.fetch r).result, (t.fetch r).seen,
      (t.fetch r).events ++ aftermath decoder failed r.url (t.fetch r).result⟩ := by
  rw [← document_result t decoder failed, ← document_seen t decoder failed, ← document_events]

theorem flow_of_error (h : s.flowUrl id = .error e) : flow s t apiKey id = ⟨.error e, [], []⟩ := by
  rw [flow, h]
  rfl

theorem flow_of_ok (h : s.flowUrl id = .ok url) :
    flow s t apiKey id = ⟨fitRecord Flow.decoder url (t.fetch ⟨url, apiKey⟩).result, (t.fetch ⟨url, apiKey⟩).seen,
      .fetchingFlow url :: ((t.fetch ⟨url, apiKey⟩).events ++
        aftermath Flow.decoder (.flowCallFailed url) url (t.fetch ⟨url, apiKey⟩).result)⟩ := by
  simp only [flow, h, document_eq]
  rfl

theorem clusters_of_error (h : s.bucketUrl bucket = .error e) : clusters s t bucket = ⟨.error e, [], []⟩ := by
  rw [clusters, h]
  rfl

theorem clusters_of_ok (h : s.bucketUrl bucket = .ok url) :
    clusters s t bucket = ⟨fitRecord (Json.list Cluster.decoder) url (t.fetch ⟨url, s.masterKey⟩).result,
      (t.fetch ⟨url, s.masterKey⟩).seen, .fetchingClusters url :: ((t.fetch ⟨url, s.masterKey⟩).events ++
        aftermath (Json.list Cluster.decoder) (.clustersCallFailed url) url (t.fetch ⟨url, s.masterKey⟩).result)⟩ := by
  simp only [clusters, h, document_eq]
  rfl

end Lookup

end

namespace Attempt

variable {ρ ε ε' α β : Type} {w : Event → List Event}

/-- The same attempt with more events behind each of its own. -/
def weave (w : Event → List Event) (x : Attempt ρ ε α) : Attempt ρ ε α :=
  ⟨x.result, x.seen, x.events.flatMap fun e => e :: w e⟩

theorem weave_ofExcept (r : Except ε α) : (ofExcept r : Attempt ρ ε α).weave w = ofExcept r := rfl

theorem weave_bind (x : Attempt ρ ε α) (k : α → Attempt ρ ε β) :
    (x >>= k).weave w = x.weave w >>= fun a => (k a).weave w := by
  obtain ⟨result, seen, events⟩ := x
  cases result with
  | ok a =>
    rw [bind_of_ok rfl, bind_of_ok (a := a) rfl]
    simp only [weave, List.flatMap_append]
  | error e =>
    rw [bind_of_error rfl, bind_of_error (e := e) rfl]
    rfl

theorem weave_map (g : α → β) (x : Attempt ρ ε α) : (g <$> x).weave w = g <$> x.weave w := by
  rw [← bind_pure_comp, ← bind_pure_comp, weave_bind]
  rfl

theorem weave_mapFailure (f : ε → ε') (x : Attempt ρ ε α) : (x.mapFailure f).weave w = (x.weave w).mapFailure f := rfl

end Attempt

/-- What a directory reports of the request that an event announces. -/
def reportsBehind (s : Settings) (apiKey : String) (reports : Request → List Event) : Event → List Event
  | .fetchingFlow url => reports ⟨url, apiKey⟩
  | .fetchingClusters url => reports ⟨url, s.masterKey⟩
  | _ => []

section

variable {α : Type} (s : Settings) (answer : Request → Except CallFailure Response × List Event)
  (apiKey id bucket identifier : String) (reports : Request → List Event)

/-- Nothing is announced after an answer, so nothing is put behind what is reported of it. -/
private theorem weave_aftermath {failed : CallFailure → Event} (hf : ∀ e, reportsBehind s apiKey reports (failed e) = [])
    (decoder : Json.Decoder α) (url : String) (a : Except CallFailure Response) :
    ((Lookup.aftermath decoder failed url a).flatMap fun e => e :: reportsBehind s apiKey reports e) =
      Lookup.aftermath decoder failed url a := by
  have hnone := Lookup.forall_mem_aftermath (P := fun e => reportsBehind s apiKey reports e = []) (fun _ _ _ => rfl)
    (fun _ _ _ => rfl) hf decoder url a
  calc ((Lookup.aftermath decoder failed url a).flatMap fun e => e :: reportsBehind s apiKey reports e)
      = (Lookup.aftermath decoder failed url a).flatMap fun e => [e] :=
        List.flatMap_congr fun e he => congrArg (e :: ·) (hnone e he)
    _ = Lookup.aftermath decoder failed url a := List.flatMap_singleton' _

/-- What a directory reports of a request that is announced stands right behind the announcement. -/
private theorem announced_recording {announce : Event} {failed : CallFailure → Event} {r : Request}
    (decoder : Json.Decoder α) (ha : reportsBehind s apiKey (fun r => (answer r).2) announce = (answer r).2)
    (hf : ∀ e, reportsBehind s apiKey (fun r => (answer r).2) (failed e) = []) :
    (do .report announce; Lookup.document (.recording answer) decoder failed r : Attempt Request CallFailure α) =
      (do .report announce; Lookup.document (.answering fun r => (answer r).1) decoder failed r :
        Attempt Request CallFailure α).weave (reportsBehind s apiKey fun r => (answer r).2) := by
  rw [Attempt.bind_of_ok rfl, Attempt.bind_of_ok rfl, Attempt.weave, Lookup.document_eq, Lookup.document_eq,
    Attempt.report_events, List.singleton_append, List.singleton_append, List.flatMap_cons, ha]
  simp only [Transport.answering, Transport.recording, List.nil_append, weave_aftermath s apiKey _ hf]
  rfl

namespace Lookup

theorem flow_recording :
    flow s (.recording answer) apiKey id =
      (flow s (.answering fun r => (answer r).1) apiKey id).weave (reportsBehind s apiKey fun r => (answer r).2) := by
  rw [flow, flow, Attempt.weave_bind, Attempt.weave_ofExcept]
  congr 1
  funext url
  exact announced_recording s answer apiKey Flow.decoder rfl fun _ => rfl

theorem clusters_recording :
    clusters s (.recording answer) bucket =
      (clusters s (.answering fun r => (answer r).1) bucket).weave
        (reportsBehind s apiKey fun r => (answer r).2) := by
  rw [clusters, clusters, Attempt.weave_bind, Attempt.weave_ofExcept]
  congr 1
  funext url
  exact announced_recording s answer apiKey (Json.list Cluster.decoder) rfl fun _ => rfl

end Lookup

namespace Resolution

theorem flow_recording :
    flow s (.recording answer) apiKey id =
      (flow s (.answering fun r => (answer r).1) apiKey id).weave (reportsBehind s apiKey fun r => (answer r).2) := by
  rw [flow, flow, Attempt.weave_bind, Attempt.weave_ofExcept, Attempt.weave_mapFailure, Lookup.flow_recording]

theorem clusters_recording :
    clusters s (.recording answer) bucket =
      (clusters s (.answering fun r => (answer r).1) bucket).weave
        (reportsBehind s apiKey fun r => (answer r).2) := by
  rw [clusters, clusters, Attempt.weave_bind, Attempt.weave_ofExcept, Attempt.weave_mapFailure,
    Lookup.clusters_recording s answer apiKey]

theorem bucketClusters_recording :
    bucketClusters s (.recording answer) apiKey id =
      (bucketClusters s (.answering fun r => (answer r).1) apiKey id).weave
        (reportsBehind s apiKey fun r => (answer r).2) := by
  simp only [bucketClusters, Attempt.weave_bind, ← flow_recording, ← clusters_recording]
  rfl

theorem resolve_recording :
    resolve s (.recording answer) apiKey id identifier =
      (resolve s (.answering fun r => (answer r).1) apiKey id identifier).weave
        (reportsBehind s apiKey fun r => (answer r).2) := by
  simp only [resolve, Attempt.weave_bind, ← bucketClusters_recording]
  congr 1
  funext p
  split <;> rfl

theorem resolveStrict_recording :
    resolveStrict s (.recording answer) apiKey id identifier =
      (resolveStrict s (.answering fun r => (answer r).1) apiKey id identifier).weave
        (reportsBehind s apiKey fun r => (answer r).2) := by
  simp only [resolveStrict, Attempt.weave_bind, ← bucketClusters_recording]
  rfl

end Resolution

namespace Step

/-- The key of the caller, if the call brings one. -/
def key (x : Step) : String := (x.flowCall?.map Prod.fst).getD ""

/-- What a directory reports changes nothing in a call but that it stands in the log, behind what it is about. -/
theorem run_recording (x : Step) :
    x.run s (.recording answer) =
      (x.run s (.answering fun r => (answer r).1)).weave (reportsBehind s x.key fun r => (answer r).2) := by
  cases x with
  | resolve apiKey id identifier =>
    rw [run, run, Attempt.weave_mapFailure, Attempt.weave_map, Resolution.resolve_recording]
    rfl
  | resolveStrict apiKey id identifier =>
    rw [run, run, Attempt.weave_mapFailure, Attempt.weave_map, Resolution.resolveStrict_recording]
    rfl
  | flow apiKey id =>
    rw [run, run, Attempt.weave_mapFailure, Attempt.weave_map, Resolution.flow_recording]
    rfl
  | clusters bucket =>
    rw [run, run, Attempt.weave_mapFailure, Attempt.weave_map, Resolution.clusters_recording]
  | flowUnchecked apiKey id =>
    rw [run, run, Attempt.weave_mapFailure, Attempt.weave_map, Lookup.flow_recording]
    rfl
  | clustersUnchecked bucket =>
    rw [run, run, Attempt.weave_mapFailure, Attempt.weave_map, Lookup.clusters_recording]

end Step

end

end FlowCluster
