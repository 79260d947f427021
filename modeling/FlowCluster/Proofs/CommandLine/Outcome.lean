import FlowCluster.CommandLine.Run
import FlowCluster.Proofs.Exchange
import FlowCluster.Session

/-! # What a run leaves behind

A command line that is understood makes one call of a session. What the call sends is what the run sends; if it brings
an answer, a document of that answer is printed, and if it fails, its failure is reported. -/

namespace FlowCluster.CommandLine

variable {ρ : Type}

namespace Action

/-- The call that an action makes. -/
def step : Action → Step
  | .resolve apiKey id cluster true _ => .resolveStrict apiKey id cluster
  | .resolve apiKey id cluster false _ => .resolve apiKey id cluster
  | .flow apiKey id => .flow apiKey id
  | .clusters bucket => .clusters bucket

/-- What an action prints of an answer. -/
inductive Prints : Action → Answer → Json.Value → Prop
  | redacted {apiKey id cluster : String} {strict : Bool} (c : Cluster) :
      Prints (.resolve apiKey id cluster strict false) (.cluster c) c.redacted.toValue
  | cleartext {apiKey id cluster : String} {strict : Bool} (c : Cluster) :
      Prints (.resolve apiKey id cluster strict true) (.cluster c) c.toValue
  | team {apiKey id : String} (f : Flow) : Prints (.flow apiKey id) (.flow f) f.team.toValue
  | summaries {bucket : String} (cs : List Cluster) :
      Prints (.clusters bucket) (.clusters cs) (.list (cs.map Cluster.summary))

/-- What an attempt for an action brings, beside the call of the action. -/
inductive Settles (a : Action) : Except StepFailure Answer → Except LookupFailure Json.Value → Prop
  | ok {answer : Answer} {v : Json.Value} : a.Prints answer v → Settles a (.ok answer) (.ok v)
  | error (e : LookupFailure) : Settles a (.error (.lookup e)) (.error e)

private theorem settles_map {α : Type} {a : Action} {answer : α → Answer} {document : α → Json.Value}
    (h : ∀ x, a.Prints (answer x) (document x)) (r : Except LookupFailure α) :
    a.Settles ((answer <$> r).mapError .lookup) (document <$> r) := by
  cases r with
  | ok x => exact .ok (h x)
  | error e => exact .error e

variable (s : Settings) (t : Transport ρ)

theorem perform_resolve (apiKey id cluster : String) (strict showPassword : Bool) :
    (Action.resolve apiKey id cluster strict showPassword).perform s t =
      (fun c : Cluster => (if showPassword then c else c.redacted).toValue) <$>
        if strict then Resolution.resolveStrict s t apiKey id cluster
        else Resolution.resolve s t apiKey id cluster := by
  cases strict with
  | true => rfl
  | false => rfl

theorem perform_flow (apiKey id : String) :
    (Action.flow apiKey id).perform s t =
      (fun f : Flow => f.team.toValue) <$> Resolution.flow s t apiKey id := rfl

private theorem perform_clusters_result (bucket : String) :
    ((Action.clusters bucket).perform s t).result =
      (fun cs => Json.Value.list (cs.map Cluster.summary)) <$> (Resolution.clusters s t bucket).result := by
  rw [perform, Attempt.bind_result]
  cases (Resolution.clusters s t bucket).result with
  | ok cs => rfl
  | error e => rfl

private theorem perform_clusters_seen (bucket : String) :
    ((Action.clusters bucket).perform s t).seen = (Resolution.clusters s t bucket).seen := by
  rw [perform, Attempt.bind_seen]
  cases (Resolution.clusters s t bucket).result with
  | ok cs => exact List.append_nil _
  | error e => exact List.append_nil _

/-- An action sends what its call sends. -/
theorem perform_seen (a : Action) : (a.perform s t).seen = (a.step.run s t).seen := by
  cases a with
  | resolve apiKey id cluster strict showPassword =>
    rw [perform_resolve, Attempt.map_seen]
    cases strict with
    | true => exact (Attempt.map_seen Answer.cluster _).symm
    | false => exact (Attempt.map_seen Answer.cluster _).symm
  | flow apiKey id =>
    rw [perform_flow, Attempt.map_seen]
    exact (Attempt.map_seen Answer.flow _).symm
  | clusters bucket =>
    rw [perform_clusters_seen]
    exact (Attempt.map_seen Answer.clusters _).symm

/-- An action prints a document of what its call brings, or fails as its call does. -/
theorem perform_settles (a : Action) : a.Settles (a.step.run s t).result (a.perform s t).result := by
  cases a with
  | resolve apiKey id cluster strict showPassword =>
    have hprints (c : Cluster) : (Action.resolve apiKey id cluster strict showPassword).Prints (.cluster c)
        (if showPassword then c else c.redacted).toValue := by
      cases showPassword with
      | true => exact .cleartext c
      | false => exact .redacted c
    rw [perform_resolve, Attempt.map_result]
    cases strict with
    | true =>
      rw [step, Step.run, Attempt.mapFailure_result, Attempt.map_result]
      exact settles_map hprints _
    | false =>
      rw [step, Step.run, Attempt.mapFailure_result, Attempt.map_result]
      exact settles_map hprints _
  | flow apiKey id =>
    rw [perform_flow, Attempt.map_result, step, Step.run, Attempt.mapFailure_result, Attempt.map_result]
    exact settles_map .team _
  | clusters bucket =>
    rw [perform_clusters_result, step, Step.run, Attempt.mapFailure_result, Attempt.map_result]
    exact settles_map .summaries _

end Action

/-- The log of a run: the start, and what was reported on the way. -/
def Invocation.logged (i : Invocation) (f : Log.Filter) (t : Transport ρ) : String :=
  i.log f (.starting i.settings.flowHost i.settings.clusterHost :: (i.action.perform i.settings t).events)

/-- What a run leaves behind, by what its call brings. -/
inductive Ending (log : String) (a : Action) (seen : List ρ) : Except StepFailure Answer → Outcome ρ → Prop
  | printed {answer : Answer} {v : Json.Value} :
      a.Prints answer v → Ending log a seen (.ok answer) ⟨0, v.pretty ++ "\n", log, seen⟩
  | reported (e : LookupFailure) :
      Ending log a seen (.error (.lookup e)) ⟨1, "", log ++ report a.heading e, seen⟩

theorem Invocation.run_ending (i : Invocation) (f : Log.Filter) (t : Transport ρ) :
    Ending (i.logged f t) i.action (i.action.step.run i.settings t).seen (i.action.step.run i.settings t).result
      (i.run f t) := by
  have hsettles := i.action.perform_settles i.settings t
  rw [Invocation.run, Invocation.logged, ← Action.perform_seen]
  generalize (i.action.step.run i.settings t).result = call at hsettles ⊢
  generalize i.action.perform i.settings t = made at hsettles ⊢
  obtain ⟨result, seen, events⟩ := made
  cases hsettles with
  | ok hprints => exact .printed hprints
  | error e => exact .reported e

theorem run_of_read {e : Environment} {args : List String} {i : Invocation} (h : Invocation.read e args = .ok i)
    (t : Transport ρ) : run e args t = i.run (i.filter e) t := by
  rw [run, h]

end FlowCluster.CommandLine
