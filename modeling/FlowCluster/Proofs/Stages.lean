import FlowCluster.Proofs.Lookup
import FlowCluster.Proofs.Settings.Address
import Mathlib.Tactic.SplitIfs

/-! # The first failing stage of a resolution

A resolution makes the same four checks twice: of the settings, of the id, of the answer, and of the document in it.
The second time depends on the flow that the first has read. Each check is stated here by itself, from the settings
and the answers alone, and as if all checks before it had passed. The first that fails decides the result and the
number of requests; if none fails, the cluster is the one selected from the list that was read. -/

namespace FlowCluster.Resolution

variable {α : Type}

/-- What a lookup checks, in the order of the constructors. -/
inductive Check
  | settings
  | id
  | answer
  | document
  deriving DecidableEq, Repr

def Check.all : List Check := [.settings, .id, .answer, .document]

/-- How many requests a lookup has sent when it ends at a check. -/
def Check.sent : Check → Nat
  | .settings => 0
  | .id => 0
  | .answer => 1
  | .document => 1

/-- The kind of failure that a check brings: a misconfiguration, or a failed call in the wrapping of its lookup. -/
def Check.Wraps (wrap : CallFailure → LookupFailure) : Check → LookupFailure → Prop
  | .settings, e => ∃ m, e = .misconfigured m
  | .id, e => ∃ cause, e = wrap cause
  | .answer, e => ∃ cause, e = wrap cause
  | .document, e => ∃ cause, e = wrap cause

/-- One lookup: what its settings lack, what it asks for, and in which kind of failure it wraps those of its call. -/
structure Inquiry (α : Type) where
  lack : Option Misconfiguration
  host : String
  id : String
  request : Request
  decoder : Json.Decoder α
  wrap : CallFailure → LookupFailure

def schemeLack (s : Settings) : Option Misconfiguration :=
  if s.scheme = "https" ∨ s.scheme = "http" then none else some (.unknownScheme s.scheme)

/-- What is wrong with a setting that has to be there. -/
def valueLack (value : String) (setting : Setting) : Option Misconfiguration :=
  if Text.Blank.isEmpty value then some (.notSet setting) else none

def flowInquiry (s : Settings) (apiKey id : String) : Inquiry Flow where
  lack := (schemeLack s).or (valueLack s.flowHost .flowHost)
  host := s.flowHost
  id := id
  request := ⟨s.flowBase ++ Settings.encodedId id, apiKey⟩
  decoder := Flow.decoder
  wrap := .flow

/-- The lookup of the clusters of a bucket. -/
def clusterInquiry (s : Settings) (bucket : String) : Inquiry (List Cluster) where
  lack := ((schemeLack s).or (valueLack s.clusterHost .clusterHost)).or (valueLack s.masterKey .masterKey)
  host := s.clusterHost
  id := bucket
  request := ⟨s.bucketBase ++ Settings.encodedId bucket ++ "/clusters", s.masterKey⟩
  decoder := Json.list Cluster.decoder
  wrap := .clusters

/-- Why an answer is not fit to be read: that it is none, that it has no body, or else its status. -/
def answerFailure? : Except CallFailure Response → Option CallFailure
  | .error e => some e
  | .ok ⟨own, status, none⟩ => some (.emptyBody own status)
  | .ok ⟨own, status, some _⟩ => if status = 200 then none else some (.status own status)

namespace Inquiry

variable (answer : Request → Except CallFailure Response) (q : Inquiry α)

/-- The body of the answer, if there is one. -/
def body? : Option Bytes :=
  match answer q.request with
  | .ok r => r.body
  | .error _ => none

/-- The record in the body of the answer, if there is one. -/
def record? : Option α := (q.body? answer).bind fun body => (Json.read q.decoder body).toOption

def failure? : Check → Option LookupFailure
  | .settings => q.lack.map .misconfigured
  | .id => if Settings.Unfit q.id then some (q.wrap (Settings.unfitFailure q.host q.id)) else none
  | .answer => (answerFailure? (answer q.request)).map q.wrap
  | .document =>
    (q.body? answer).bind fun body =>
      match Json.read q.decoder body with
      | .ok _ => none
      | .error r => some (q.wrap (.decode q.request.url r))

/-- The first check that fails, with its failure. -/
def firstFailure? : Option (Check × LookupFailure) := Check.all.findSome? fun c => (q.failure? answer c).map (c, ·)

end Inquiry

/-- A check of one of the two lookups of a resolution. -/
inductive Stage
  | flow (check : Check)
  | clusters (check : Check)
  deriving DecidableEq, Repr

namespace Stage

/-- The eight stages of a resolution in order. -/
def all : List Stage := Check.all.map .flow ++ Check.all.map .clusters

theorem mem_all (g : Stage) : g ∈ all := by
  cases g with
  | flow c => cases c <;> decide
  | clusters c => cases c <;> decide

/-- How many requests a resolution has sent when it ends at a stage. -/
def sent : Stage → Nat
  | .flow c => c.sent
  | .clusters c => 1 + c.sent

/-- The kind of failure that a stage brings. -/
def Wraps : Stage → LookupFailure → Prop
  | .flow c => c.Wraps .flow
  | .clusters c => c.Wraps .clusters

end Stage

/-- The clusters of the flow's bucket as a lookup of their own; without a flow, those of a bucket without a name. -/
def secondInquiry (s : Settings) (answer : Request → Except CallFailure Response) (apiKey id : String) :
    Inquiry (List Cluster) :=
  clusterInquiry s ((((flowInquiry s apiKey id).record? answer).map fun f => f.team.bucket).getD "")

def stageFailure? (s : Settings) (answer : Request → Except CallFailure Response) (apiKey id : String) :
    Stage → Option LookupFailure
  | .flow c => (flowInquiry s apiKey id).failure? answer c
  | .clusters c => (secondInquiry s answer apiKey id).failure? answer c

/-- The first stage that fails, with its failure. -/
def firstFailure? (s : Settings) (answer : Request → Except CallFailure Response) (apiKey id : String) :
    Option (Stage × LookupFailure) :=
  Stage.all.findSome? fun g => (stageFailure? s answer apiKey id g).map (g, ·)

/-- An attempt is decided by the checks of an inquiry. -/
def Inquiry.Decides (q : Inquiry α) (answer : Request → Except CallFailure Response)
    (x : Attempt Request LookupFailure α) : Prop :=
  match q.firstFailure? answer with
  | some (c, e) => x.result = .error e ∧ x.seen = [q.request].take c.sent
  | none => ∃ r, q.record? answer = some r ∧ x.result = .ok r ∧ x.seen = [q.request]

private def verdict : Option Misconfiguration → Except Misconfiguration Unit
  | none => .ok ()
  | some m => .error m

private theorem checkFlow_eq (s : Settings) (apiKey id : String) :
    s.checkFlow = verdict (flowInquiry s apiKey id).lack := by
  simp only [Settings.checkFlow, Settings.checkScheme, Settings.checkPresent, flowInquiry, schemeLack, valueLack]
  split_ifs <;> rfl

private theorem checkClusters_eq (s : Settings) (bucket : String) :
    s.checkClusters = verdict (clusterInquiry s bucket).lack := by
  simp only [Settings.checkClusters, Settings.checkScheme, Settings.checkPresent, clusterInquiry, schemeLack,
    valueLack]
  split_ifs <;> rfl

private theorem fitBody_of_failure {a : Except CallFailure Response} {e : CallFailure} (h : answerFailure? a = some e) :
    Lookup.fitBody a = .error e := by
  unfold answerFailure? at h
  split at h
  · rw [Option.some.inj h]
    rfl
  · rw [← Option.some.inj h]
    rfl
  · split_ifs at h with hs
    simp [Lookup.fitBody, hs, Option.some.inj h]

private theorem exists_body_of_no_failure {a : Except CallFailure Response} (h : answerFailure? a = none) :
    ∃ own body, a = .ok ⟨own, 200, some body⟩ := by
  unfold answerFailure? at h
  split at h
  · cases h
  · cases h
  · next own status body =>
    split_ifs at h with hs
    exact ⟨own, body, by rw [hs]⟩

/-- The checks of an inquiry decide an attempt that checks the settings, then the id, and then reads the answer. -/
private theorem decides_of_eq {q : Inquiry α} {answer : Request → Except CallFailure Response}
    {x : Attempt Request LookupFailure α}
    (hr : x.result = (verdict q.lack).mapError .misconfigured >>= fun _ =>
      ((if Settings.Unfit q.id then .error (Settings.unfitFailure q.host q.id) else .ok q.request.url) >>= fun url =>
        Lookup.fitRecord q.decoder url (answer ⟨url, q.request.apiKey⟩)).mapError q.wrap)
    (hs : x.seen = if q.lack.isSome ∨ Settings.Unfit q.id then [] else [q.request]) : q.Decides answer x := by
  unfold Inquiry.Decides Inquiry.firstFailure? Check.all
  cases hl : q.lack with
  | some m => simp [Inquiry.failure?, hl, hr, hs, verdict, Check.sent]; rfl
  | none =>
    by_cases hf : Settings.Unfit q.id
    · simp [Inquiry.failure?, hl, hf, hr, hs, verdict, Check.sent]; rfl
    have hr : x.result = (Lookup.fitRecord q.decoder q.request.url (answer q.request)).mapError q.wrap := by
      simpa [hl, hf, verdict, bind, Except.bind, Except.mapError] using hr
    have hs : x.seen = [q.request] := by simpa [hl, hf] using hs
    cases ha : answerFailure? (answer q.request) with
    | some e =>
      have hr : x.result = .error (q.wrap e) := by rw [hr, Lookup.fitRecord, fitBody_of_failure ha]; rfl
      simp [Inquiry.failure?, hl, hf, ha, hr, hs, Check.sent]
    | none =>
      obtain ⟨own, body, hb⟩ := exists_body_of_no_failure ha
      have hr : x.result = ((Json.read q.decoder body).mapError (.decode q.request.url)).mapError q.wrap := by
        rw [hr, Lookup.fitRecord, Lookup.fitBody_eq_ok_iff.mpr ⟨own, hb⟩]
        rfl
      rw [hb] at ha
      cases hd : Json.read q.decoder body with
      | error r =>
        simp [Inquiry.failure?, Inquiry.body?, hl, hf, ha, hb, hd, hr, hs, Check.sent, Except.mapError]
      | ok y =>
        simp [Inquiry.failure?, Inquiry.body?, Inquiry.record?, hl, hf, ha, hb, hd, hr, hs, Except.mapError,
          Except.toOption]

private theorem decides_flow (s : Settings) (answer : Request → Except CallFailure Response × List Event)
    (apiKey id : String) :
    (flowInquiry s apiKey id).Decides (fun r => (answer r).1) (flow s (.recording answer) apiKey id) := by
  apply decides_of_eq
  · rw [flow_result, Lookup.flow_result, checkFlow_eq s apiKey id, Settings.flowUrl_eq]
    rfl
  · rw [flow_seen, Lookup.flow_seen, checkFlow_eq s apiKey id, Settings.flowUrl_eq]
    cases (flowInquiry s apiKey id).lack with
    | some m => rfl
    | none =>
      by_cases hf : Settings.Unfit id
      · simp [verdict, flowInquiry, hf]
      · simp [verdict, flowInquiry, hf]
        rfl

private theorem decides_clusters (s : Settings) (answer : Request → Except CallFailure Response × List Event)
    (bucket : String) :
    (clusterInquiry s bucket).Decides (fun r => (answer r).1) (clusters s (.recording answer) bucket) := by
  apply decides_of_eq
  · rw [clusters_result, Lookup.clusters_result, checkClusters_eq s bucket, Settings.bucketUrl_eq]
    rfl
  · rw [clusters_seen, Lookup.clusters_seen, checkClusters_eq s bucket, Settings.bucketUrl_eq]
    cases (clusterInquiry s bucket).lack with
    | some m => rfl
    | none =>
      by_cases hf : Settings.Unfit bucket
      · simp [verdict, clusterInquiry, hf]
      · simp [verdict, clusterInquiry, hf]
        rfl

/-- The first failing stage is one of the first lookup, or of the second if the first has none. -/
private theorem firstFailure?_eq (s : Settings) (answer : Request → Except CallFailure Response) (apiKey id : String) :
    firstFailure? s answer apiKey id =
      (((flowInquiry s apiKey id).firstFailure? answer).map fun p => (.flow p.1, p.2)).or
        (((secondInquiry s answer apiKey id).firstFailure? answer).map fun p => (.clusters p.1, p.2)) := by
  simp only [firstFailure?, Inquiry.firstFailure?, Stage.all, List.findSome?_append, List.findSome?_map,
    List.map_findSome?, Function.comp_def, Option.map_map, stageFailure?]

private theorem wraps_of_failure {q : Inquiry α} {answer : Request → Except CallFailure Response} {c : Check}
    {e : LookupFailure} (h : q.failure? answer c = some e) : c.Wraps q.wrap e := by
  cases c with
  | settings =>
    obtain ⟨m, -, hm⟩ := Option.map_eq_some_iff.mp h
    exact ⟨m, hm.symm⟩
  | id =>
    simp only [Inquiry.failure?, Option.ite_none_right_eq_some] at h
    exact ⟨_, (Option.some.inj h.2).symm⟩
  | answer =>
    obtain ⟨cause, -, hc⟩ := Option.map_eq_some_iff.mp h
    exact ⟨cause, hc.symm⟩
  | document =>
    obtain ⟨body, -, hb⟩ := Option.bind_eq_some_iff.mp h
    split at hb
    · cases hb
    · exact ⟨_, (Option.some.inj hb).symm⟩

private theorem stage_of_first {s : Settings} {answer : Request → Except CallFailure Response} {apiKey id : String}
    {g : Stage} {e : LookupFailure} (h : firstFailure? s answer apiKey id = some (g, e)) :
    stageFailure? s answer apiKey id g = some e := by
  obtain ⟨g', -, hg⟩ := List.exists_of_findSome?_eq_some h
  obtain ⟨e', he, hp⟩ := Option.map_eq_some_iff.mp hg
  cases hp
  exact he

private theorem wraps_of_first {s : Settings} {answer : Request → Except CallFailure Response} {apiKey id : String}
    {g : Stage} {e : LookupFailure} (h : firstFailure? s answer apiKey id = some (g, e)) : g.Wraps e := by
  have hg := stage_of_first h
  cases g with
  | flow c => exact wraps_of_failure hg
  | clusters c => exact wraps_of_failure hg

/-- The two requests of a resolution that comes to its end. -/
def requests (s : Settings) (answer : Request → Except CallFailure Response) (apiKey id : String) : List Request :=
  [(flowInquiry s apiKey id).request, (secondInquiry s answer apiKey id).request]

private theorem resolve_decided (s : Settings) (answer : Request → Except CallFailure Response × List Event)
    (apiKey id identifier : String) :
    match firstFailure? s (fun r => (answer r).1) apiKey id with
    | some (g, e) =>
      (resolve s (.recording answer) apiKey id identifier).result = .error e ∧ g.Wraps e ∧
        (resolve s (.recording answer) apiKey id identifier).seen =
          (requests s (fun r => (answer r).1) apiKey id).take g.sent
    | none =>
      ∃ clusters, (secondInquiry s (fun r => (answer r).1) apiKey id).record? (fun r => (answer r).1) = some clusters ∧
        (resolve s (.recording answer) apiKey id identifier).result = .ok (Selection.select clusters identifier) ∧
        (resolve s (.recording answer) apiKey id identifier).seen = requests s (fun r => (answer r).1) apiKey id := by
  have hw : ∀ g e, firstFailure? s (fun r => (answer r).1) apiKey id = some (g, e) → g.Wraps e :=
    fun _ _ => wraps_of_first
  rw [firstFailure?_eq] at hw ⊢
  rw [resolve_result, resolve_seen, bucketClusters_result, bucketClusters_seen]
  have hf := decides_flow s answer apiKey id
  unfold Inquiry.Decides at hf
  -- Only when the first lookup has read a flow is the second one known, so its checks come inside that case.
  cases h₁ : (flowInquiry s apiKey id).firstFailure? (fun r => (answer r).1) with
  | some p =>
    obtain ⟨c, e⟩ := p
    simp only [h₁] at hf
    simp only [h₁, Option.map_some, Option.some_or] at hw ⊢
    refine ⟨?_, hw _ _ rfl, ?_⟩
    · rw [hf.1]
      rfl
    · rw [hf.1, hf.2]
      cases c <;> simp [requests, Stage.sent, Check.sent]
  | none =>
    simp only [h₁] at hf
    obtain ⟨f, hrec, hres, hseen⟩ := hf
    have hq : secondInquiry s (fun r => (answer r).1) apiKey id = clusterInquiry s f.bucket := by
      rw [secondInquiry, hrec]
      rfl
    have hc := decides_clusters s answer f.bucket
    unfold Inquiry.Decides at hc
    rw [← hq] at hc
    cases h₂ : (secondInquiry s (fun r => (answer r).1) apiKey id).firstFailure? (fun r => (answer r).1) with
    | some p =>
      obtain ⟨c, e⟩ := p
      simp only [h₂] at hc
      simp only [h₁, h₂, Option.map_some, Option.map_none, Option.none_or] at hw ⊢
      refine ⟨?_, hw _ _ rfl, ?_⟩
      · rw [hres]
        simp only [bind, Except.bind, hc.1]
        rfl
      · simp only [hres, hseen, hc.2]
        cases c <;> rfl
    | none =>
      simp only [h₂] at hc
      obtain ⟨cs, hrec', hres', hseen'⟩ := hc
      simp only [Option.map_none, Option.none_or]
      refine ⟨cs, hrec', ?_, ?_⟩
      · rw [hres]
        simp only [bind, Except.bind, hres']
        rfl
      · simp only [hres, hseen, hseen']
        rfl

private theorem firstFailure?_eq_none_iff {s : Settings} {answer : Request → Except CallFailure Response}
    {apiKey id : String} :
    firstFailure? s answer apiKey id = none ↔ ∀ g, stageFailure? s answer apiKey id g = none := by
  rw [firstFailure?, List.findSome?_eq_none_iff]
  constructor
  · intro h g
    exact Option.map_eq_none_iff.mp (h g (Stage.mem_all g))
  · intro h g _
    rw [h g, Option.map_none]

/-- A resolution succeeds exactly if no stage fails, and then selects its cluster from the list that was read. If one
fails, the first that does decides: with which failure, of which kind, and after how many of the two requests. -/
theorem resolve_first_failure (s : Settings) (answer : Request → Except CallFailure Response × List Event)
    (apiKey id identifier : String) :
    ((∃ c, (resolve s (.recording answer) apiKey id identifier).result = .ok c) ↔
      ∀ g, stageFailure? s (fun r => (answer r).1) apiKey id g = none) ∧
    match firstFailure? s (fun r => (answer r).1) apiKey id with
    | some (g, e) =>
      (resolve s (.recording answer) apiKey id identifier).result = .error e ∧ g.Wraps e ∧
        (resolve s (.recording answer) apiKey id identifier).seen =
          (requests s (fun r => (answer r).1) apiKey id).take g.sent
    | none =>
      ∃ clusters, (secondInquiry s (fun r => (answer r).1) apiKey id).record? (fun r => (answer r).1) = some clusters ∧
        (resolve s (.recording answer) apiKey id identifier).result = .ok (Selection.select clusters identifier) ∧
        (resolve s (.recording answer) apiKey id identifier).seen =
          requests s (fun r => (answer r).1) apiKey id := by
  have hd := resolve_decided s answer apiKey id identifier
  refine ⟨?_, hd⟩
  rw [← firstFailure?_eq_none_iff]
  cases hf : firstFailure? s (fun r => (answer r).1) apiKey id with
  | some p =>
    rw [hf] at hd
    simp [hd.1]
  | none =>
    rw [hf] at hd
    obtain ⟨cs, -, hr, -⟩ := hd
    simp [hr]

end FlowCluster.Resolution
