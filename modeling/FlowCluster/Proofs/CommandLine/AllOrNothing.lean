import FlowCluster.Proofs.CommandLine.Flags
import FlowCluster.Proofs.CommandLine.Outcome
import FlowCluster.Proofs.CommandLine.Report
import FlowCluster.Proofs.Json.Pretty
import FlowCluster.Proofs.Passwords
import FlowCluster.Proofs.RoundTrip

/-! # A run prints all or nothing

A command line sends what its one call sends. If the call brings an answer, a whole document is printed and nothing is
reported; if it fails, nothing is printed and the report has every cause. -/

namespace FlowCluster

open Json

theorem isValue_pretty_texts (depth : Nat) (fields : List (String × String)) :
    IsValue (bytesOf ((Value.object (fields.map fun p => (p.1, Value.text p.2))).prettyChars depth)) := by
  have hvalues : List.Forall₂
      (fun (m : String × Value) (x : String × Unit) => m.1 = x.1 ∧ IsValue (bytesOf (m.2.prettyChars (depth + 1))))
      (fields.map fun p => (p.1, Value.text p.2)) (fields.map fun p => (p.1, ())) := by
    rw [List.forall₂_map_left_iff, List.forall₂_map_right_iff, List.forall₂_same]
    intro p _
    exact ⟨rfl, (quoted_stringChars p.2).isValue⟩
  obtain ⟨t, ht, hm⟩ := Value.members_pretty (R := fun _ e (_ : Unit) => IsValue e) hvalues
  rw [ht]
  exact hm.isValue fun _ _ _ he => he

theorem isValue_pretty_summaries (cs : List Cluster) :
    IsValue (bytesOf ((Value.list (cs.map Cluster.summary)).prettyChars 0)) := by
  have hentries : List.Forall₂ (fun (v : Value) (_ : Cluster) => IsValue (bytesOf (v.prettyChars 1)))
      (cs.map Cluster.summary) cs := by
    rw [List.forall₂_map_left_iff, List.forall₂_same]
    intro c _
    exact isValue_pretty_texts 1 [("identifier", c.identifier), ("address", c.address), ("type", c.kind)]
  obtain ⟨t, ht, hitems⟩ := Value.items_pretty (R := fun e (_ : Cluster) => IsValue e) hentries
  rw [ht]
  exact hitems.isValue fun _ _ he => he

theorem Cluster.isValue_pretty (c : Cluster) : IsValue (bytesOf (c.toValue.prettyChars 0)) :=
  isValue_pretty_texts 0 [("identifier", c.identifier), ("address", c.address), ("version", c.version),
    ("username", c.username), ("password", c.password), ("type", c.kind)]

namespace CommandLine

variable {ρ : Type}

/-- What an action prints is one document. -/
theorem Action.Prints.isValue {a : Action} {answer : Answer} {v : Value} (h : a.Prints answer v) :
    IsValue (Text.Utf8.encode v.pretty) := by
  rw [Value.pretty, encode_ofList]
  cases h with
  | redacted c => exact c.redacted.isValue_pretty
  | cleartext c => exact c.isValue_pretty
  | team f =>
    exact isValue_pretty_texts 0
      [("bucket_uuid", f.team.bucket), ("slug", f.team.slug), ("name", f.team.name)]
  | summaries cs => exact isValue_pretty_summaries cs

/-- The variable that turns the log off. -/
def LogIsOff (e : Environment) : Prop := e.bytes? "RUST_LOG" = some (Text.Utf8.encode "off")

theorem LogIsOff.ofEnvironment {e : Environment} (h : LogIsOff e) (otherwise : Log.Filter) :
    Log.Filter.ofEnvironment e otherwise = [.events ⟨[], none, none⟩] := by
  have htext : e.text? "RUST_LOG" = some "off" := by
    rw [Environment.text?, h]
    decide +kernel
  have hread : Log.Filter.read? "off" = some [.events ⟨[], none, none⟩] := by decide +kernel
  rw [Log.Filter.ofEnvironment, htext, Option.bind_some, hread, Option.getD_some]

/-- A rule without a limit lets nothing through. -/
theorem shows_off (event : Event) : Log.Filter.shows [.events ⟨[], none, none⟩] event = false := rfl

theorem LogIsOff.logged {e : Environment} (h : LogIsOff e) (i : Invocation) (t : Transport ρ) :
    i.logged (i.filter e) t = "" := by
  have hnone (events : List Event) : events.filter (i.filter e).shows = [] := by
    rw [Invocation.filter, h.ofEnvironment, List.filter_eq_nil_iff]
    intro event _
    rw [shows_off]
    exact Bool.false_ne_true
  rw [Invocation.logged, Invocation.log, hnone, List.map_nil]
  rfl

/-- What an action asks for, by name. -/
def Action.asked : Action → List String
  | .resolve _ id cluster _ _ => [cluster, id]
  | .flow _ id => [id]
  | .clusters bucket => [bucket]

theorem Action.infix_heading (a : Action) : ∀ name ∈ a.asked, name.toList <:+: a.heading.toList := by
  intro name hname
  cases a with
  | resolve apiKey id cluster strict showPassword =>
    have hheading : (Action.resolve apiKey id cluster strict showPassword).heading =
        "Failed to resolve cluster " ++ cluster ++ " for flow " ++ id := rfl
    simp only [hheading, String.toList_append]
    rcases List.mem_cons.mp hname with rfl | hname
    · rw [List.append_assoc]
      exact List.infix_append _ _ _
    · rw [List.mem_singleton.mp hname]
      exact (List.suffix_append _ _).isInfix
  | flow apiKey id =>
    have hheading : (Action.flow apiKey id).heading = "Failed to get flow " ++ id := rfl
    rw [List.mem_singleton.mp hname, hheading, String.toList_append]
    exact (List.suffix_append _ _).isInfix
  | clusters bucket =>
    have hheading : (Action.clusters bucket).heading = "Failed to list clusters for bucket " ++ bucket := rfl
    rw [List.mem_singleton.mp hname, hheading, String.toList_append]
    exact (List.suffix_append _ _).isInfix

/-- The call of a line is strict exactly if the line says so. -/
theorem Invocation.step_of_read {e : Environment} {args : List String} {i : Invocation} {apiKey id cluster : String}
    {strict showPassword : Bool} (hread : read e args = .ok i)
    (hi : i.action = .resolve apiKey id cluster strict showPassword) :
    i.action.step = if "--strict" ∈ args then .resolveStrict apiKey id cluster else .resolve apiKey id cluster := by
  obtain ⟨hstrict, -⟩ := flags_of_read hread hi
  rw [hi]
  cases strict with
  | true => exact (if_pos (hstrict.mp rfl)).symm
  | false => exact (if_neg fun h => Bool.false_ne_true (hstrict.mpr h)).symm

/-- Without a log, a run is its call, strict where the line says so: it sends what the call sends, and it succeeds with a
whole document and no report, or fails with no document and a report that names what was asked for and has the failure
and all the causes behind it. -/
theorem run_all_or_nothing (e : Environment) (args : List String) (i : Invocation) (t : Transport ρ)
    (hread : Invocation.read e args = .ok i) (hoff : LogIsOff e) :
    (∀ apiKey id cluster strict showPassword, i.action = .resolve apiKey id cluster strict showPassword →
      i.action.step = if "--strict" ∈ args then .resolveStrict apiKey id cluster else .resolve apiKey id cluster) ∧
    (run e args t).seen = (i.action.step.run i.settings t).seen ∧
    ((run e args t).exit = 0 ↔ ∃ answer, (i.action.step.run i.settings t).result = .ok answer) ∧
    (∀ answer, (i.action.step.run i.settings t).result = .ok answer → ∃ v, i.action.Prints answer v ∧
      IsValue (Text.Utf8.encode v.pretty) ∧ (run e args t).printed = v.pretty ++ "\n" ∧
      (run e args t).reported = "") ∧
    (∀ f, (i.action.step.run i.settings t).result = .error f → ∃ cause body, f = .lookup cause ∧
      cause.Behind cause.chain ∧ (run e args t).exit = 1 ∧ (run e args t).printed = "" ∧
      (run e args t).reported = "Error: " ++ i.action.heading ++ "\n\nCaused by:\n" ++ body ++ "\n" ∧
      causesIn body = cause.message :: cause.chain) ∧
    ∀ name ∈ i.action.asked, name.toList <:+: i.action.heading.toList := by
  refine ⟨fun apiKey id cluster strict showPassword hi => Invocation.step_of_read hread hi, ?_⟩
  have hending := i.run_ending (i.filter e) t
  rw [run_of_read hread]
  rw [hoff.logged] at hending
  generalize i.run (i.filter e) t = outcome at hending ⊢
  generalize i.action.step.run i.settings t = call at hending ⊢
  obtain ⟨result, seen, events⟩ := call
  cases hending with
  | printed hprints =>
    refine ⟨rfl, iff_of_true rfl ⟨_, rfl⟩, ?_, ?_, i.action.infix_heading⟩
    · intro answer hanswer
      cases hanswer
      exact ⟨_, hprints, hprints.isValue, rfl, rfl⟩
    · intro f hf
      cases hf
  | reported cause =>
    refine ⟨rfl, iff_of_false Nat.one_ne_zero ?_, ?_, ?_, i.action.infix_heading⟩
    · rintro ⟨answer, hanswer⟩
      cases hanswer
    · intro answer hanswer
      cases hanswer
    · intro f hf
      cases hf
      refine ⟨cause, causesText (cause.message :: cause.chain), rfl, LookupFailure.behind_iff.mpr rfl, rfl, rfl, ?_,
        causesIn_report cause⟩
      rw [String.empty_append, report_eq]

/-- A flow whose bucket the cluster directory does not have. -/
theorem run_all_or_nothing_missing_bucket :
    let e : Environment := ⟨[("RUST_LOG", Text.Utf8.encode "off")]⟩
    let i : Invocation := ⟨hub, false, false, .resolve "key" "f" "c" false false⟩
    Invocation.read e hubArguments = .ok i ∧ LogIsOff e ∧
      (run e hubArguments guardedFlow.transport).exit = 1 ∧ (run e hubArguments guardedFlow.transport).printed = "" ∧
      ∃ cause body, (i.action.step.run i.settings guardedFlow.transport).result = .error (.lookup cause) ∧
        (run e hubArguments guardedFlow.transport).reported =
          "Error: " ++ i.action.heading ++ "\n\nCaused by:\n" ++ body ++ "\n" ∧
        causesIn body = cause.message :: cause.chain := by
  intro e i
  have hread : Invocation.read e hubArguments = .ok i := by decide +kernel
  have hoff : LogIsOff e := by
    have hvalue : e.bytes? "RUST_LOG" = some (Text.Utf8.encode "off") := by decide +kernel
    exact hvalue
  have hexit : (run e hubArguments guardedFlow.transport).exit = 1 := by decide +kernel
  obtain ⟨-, -, hsuccess, -, hfailure, -⟩ := run_all_or_nothing e hubArguments i guardedFlow.transport hread hoff
  cases hresult : (i.action.step.run i.settings guardedFlow.transport).result with
  | ok answer =>
    have hzero := hsuccess.mpr ⟨answer, hresult⟩
    rw [hexit] at hzero
    cases hzero
  | error f =>
    obtain ⟨cause, body, rfl, -, -, hprinted, hreported, hcauses⟩ := hfailure f hresult
    exact ⟨hread, hoff, hexit, hprinted, cause, body, rfl, hreported, hcauses⟩

end CommandLine
end FlowCluster
