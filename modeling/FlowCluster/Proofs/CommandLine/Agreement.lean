import FlowCluster.CommandLine.Run
import FlowCluster.Directory
import FlowCluster.Proofs.CommandLine.Given
import FlowCluster.Proofs.Text.Basic
import FlowCluster.Proofs.Text.Utf8
import Mathlib.Tactic.ByContra

/-! # Two readings of the environment

The settings of a command line that gives none of them come from the environment, and so do the settings that are read
from the environment alone. The two readings agree but for a timeout that is no count, which the command line does not
put up with, and for a scheme of white space, which it keeps. -/

namespace FlowCluster

/-- The variables of all settings are texts, if they are set. -/
def Environment.HoldsText (e : Environment) : Prop := ∀ s : Setting, e.IsText s.variable

/-- A timeout that is set is a count as it stands. -/
def Environment.TimeoutCounts (e : Environment) : Prop :=
  ∀ v, e.setting? .timeout = some v → ∃ n, Text.Count.Writes v n

/-- A scheme that is set is not white space alone. -/
def Environment.SchemeSays (e : Environment) : Prop :=
  ∀ v, e.setting? .scheme = some v → ∃ c ∈ v.toList, Text.Blank.isBlank c = false

namespace CommandLine

variable {e : Environment} {c : Command} {line : List String}

/-- The name of a command hands the rest of the line over to it. -/
theorem scan_top (c : Command) (line : List String) :
    Scope.top.scan .start (c.name :: line) = .ok (.start, some (c, line)) := by
  cases c <;> rfl

/-- The environment has nothing for an argument of a command that is not needed. -/
theorem required_or_unsourced (c : Command) :
    ∀ a ∈ (Scope.ofCommand c).arguments, a ∈ (Scope.ofCommand c).required ∨ a.fallback = none := by
  cases c <;> decide

theorem read_of_complete (e : Environment) (h : Complete c line) :
    ∃ q, Invocation.read e (c.name :: line) = (Scope.top.complete e .start).map fun p =>
      ⟨Invocation.settingsOf p, p.has .verbose, p.has .json, Invocation.actionOf q c⟩ := by
  obtain ⟨p, next, q, hscan, hsettled, hrequired⟩ := h
  have hgiven : ∀ a ∈ (Scope.ofCommand c).arguments, q.has a = true ∨ a.fallback = none := fun a ha =>
    (required_or_unsourced c a ha).imp_left (hrequired a)
  have hcomplete := Scope.complete_of_given (e := e) hsettled hgiven hrequired
  refine ⟨q, ?_⟩
  simp only [Invocation.read, scan_top, hscan, hcomplete, bind, Except.bind]
  cases Scope.top.complete e .start <;> rfl

/-! ## The settings of a line that gives none -/

/-- The settings before the timeout. -/
def textArguments : List Argument := [.flowHost, .clusterHost, .masterKey, .scheme]

theorem top_arguments :
    Scope.top.arguments = textArguments ++ .timeout :: [.verbose, .json, .help, .version] := rfl

private theorem isText_setting (h : e.HoldsText) (name placeholder : String) (format : Format) (about : String)
    (s : Setting) (shown : Bool) (implied : String) :
    ∀ f ∈ (Argument.setting name placeholder format about s shown implied).fallback, e.IsText f.source := by
  rintro f hf
  cases hf
  exact h s

theorem isText_top (h : e.HoldsText) : ∀ a ∈ Scope.top.arguments, ∀ f ∈ a.fallback, e.IsText f.source := by
  simp only [Scope.top, List.forall_mem_cons]
  exact ⟨isText_setting h _ _ _ _ _ _ _, isText_setting h _ _ _ _ _ _ _, isText_setting h _ _ _ _ _ _ _,
    isText_setting h _ _ _ _ _ _ _, isText_setting h _ _ _ _ _ _ _, nofun, nofun, nofun, nofun, nofun⟩

theorem check_text {a : Argument} (ha : a ∈ textArguments) (v : String) : a.check v = .ok () := by
  simp only [textArguments, List.mem_cons, List.not_mem_nil, or_false] at ha
  rcases ha with rfl | rfl | rfl | rfl <;> rfl

theorem check_timeout (v : String) : Argument.timeout.check v = (Text.Count.read v).map fun _ => () := rfl

/-- A timeout that is a count lets the line go on, with all that the environment has. -/
theorem complete_top (htext : e.HoldsText) (h : e.TimeoutCounts) :
    Scope.top.complete e .start = .ok (Progress.start.draw e Scope.top.arguments) := by
  have hcheck : ∀ a ∈ Scope.top.arguments, ∀ v, a.drawn? e = some v → a.check v = .ok () := by
    rw [top_arguments]
    intro a ha v hv
    rcases List.mem_append.mp ha with ha | ha
    · exact check_text ha v
    · simp only [List.mem_cons, List.not_mem_nil, or_false] at ha
      rcases ha with rfl | rfl | rfl | rfl | rfl
      · obtain ⟨n, hn⟩ := h v hv
        rw [check_timeout, Text.Count.read_eq_ok_iff.mpr hn]
        rfl
      all_goals rfl
  have hfold := Scope.foldlM_fromVariable (s := .top) (p := .start) (by decide) (fun _ _ => rfl) (isText_top htext) hcheck
  have hsettled : Scope.top.settled .start = .ok .start := rfl
  have hrequired : Scope.top.required = [] := rfl
  simp only [Scope.complete, hsettled, hfold, hrequired, List.filter_nil, List.isEmpty_nil, bind, Except.bind,
    ↓reduceIte]
  rfl

theorem complete_top_of_misfit (htext : e.HoldsText) (h : ¬e.TimeoutCounts) :
    ∃ m, Scope.top.complete e .start = .error (Scope.top.complain m) := by
  simp only [Environment.TimeoutCounts, not_forall] at h
  obtain ⟨v, hv, hn⟩ := h
  cases hread : Text.Count.read v with
  | ok n => exact absurd ⟨n, Text.Count.read_eq_ok_iff.mp hread⟩ hn
  | error r =>
    have hcheck : Argument.timeout.check v = .error r := by
      rw [check_timeout, hread]
      rfl
    have hfold : Scope.top.arguments.foldlM (Scope.top.fromVariable e) .start =
        .error (Scope.top.complain (.invalidValue .timeout v r)) := by
      rw [top_arguments]
      exact Scope.foldlM_fromVariable_of_misfit (by decide) (fun _ _ => rfl)
        (fun a ha => isText_top htext a (List.mem_append_left _ ha)) (fun a ha v _ => check_text ha v) hv hcheck
    have hsettled : Scope.top.settled .start = .ok .start := rfl
    refine ⟨.invalidValue .timeout v r, ?_⟩
    simp only [Scope.complete, hsettled, hfold, bind, Except.bind]

/-- The settings of a line that gives none: those of the environment, a timeout that is set being a count. -/
theorem settingsOf_draw (e : Environment) :
    Invocation.settingsOf (Progress.start.draw e Scope.top.arguments) = {
      flowHost := (e.setting? .flowHost).getD ""
      clusterHost := (e.setting? .clusterHost).getD ""
      masterKey := (e.setting? .masterKey).getD ""
      scheme := (e.setting? .scheme).getD Settings.defaultScheme
      timeout := .ofSeconds ((Text.Count.read ((e.setting? .timeout).getD (toString Settings.defaultSeconds))).toOption.getD
        Settings.defaultSeconds) } := by
  have hvalue {a : Argument} (ha : a ∈ Scope.top.arguments) := Progress.value_draw (p := .start) (e := e) rfl ha
  have hflow := hvalue (a := .flowHost) (by decide)
  have hcluster := hvalue (a := .clusterHost) (by decide)
  have hkey := hvalue (a := .masterKey) (by decide)
  have hscheme := hvalue (a := .scheme) (by decide)
  have htimeout := hvalue (a := .timeout) (by decide)
  rw [Invocation.settingsOf, hflow, hcluster, hkey, hscheme, htimeout]
  rfl

theorem timeout_agrees (h : e.TimeoutCounts) :
    (Text.Count.read ((e.setting? .timeout).getD (toString Settings.defaultSeconds))).toOption.getD
        Settings.defaultSeconds =
      ((e.setting? .timeout).bind Settings.seconds?).getD Settings.defaultSeconds := by
  cases hv : e.setting? .timeout with
  | none => decide +kernel
  | some v =>
    obtain ⟨n, hn⟩ := h v hv
    rw [Option.getD_some, Option.bind_some, Settings.seconds?, hn.trim_eq]

/-- With a timeout that is a count, the two readings differ in the scheme at most. -/
theorem settingsOf_draw_eq (h : e.TimeoutCounts) :
    Invocation.settingsOf (Progress.start.draw e Scope.top.arguments) =
      { Settings.ofEnvironment e with scheme := (e.setting? .scheme).getD Settings.defaultScheme } := by
  rw [settingsOf_draw, timeout_agrees h]
  rfl

theorem ofEnvironment_scheme (e : Environment) : (Settings.ofEnvironment e).scheme =
    ((e.setting? .scheme).filter fun v => !Text.Blank.isEmpty v).getD Settings.defaultScheme := rfl

theorem scheme_of_says (h : e.SchemeSays) :
    (e.setting? .scheme).getD Settings.defaultScheme = (Settings.ofEnvironment e).scheme := by
  rw [ofEnvironment_scheme]
  cases hv : e.setting? .scheme with
  | none => rfl
  | some v =>
    have hsays : Text.Blank.isEmpty v = false := List.all_eq_false.mpr <| by
      obtain ⟨c, hc, hblank⟩ := h v hv
      exact ⟨c, hc, by simp [hblank]⟩
    rw [Option.filter, hsays]
    rfl

/-- A scheme that says nothing is kept by the one reading and made up for by the other. -/
theorem scheme_of_blank (h : ¬e.SchemeSays) :
    ∃ v, e.setting? .scheme = some v ∧ Text.Blank.isEmpty v = true ∧
      (Settings.ofEnvironment e).scheme = Settings.defaultScheme := by
  simp only [Environment.SchemeSays, not_forall] at h
  obtain ⟨v, hv, hnone⟩ := h
  have hblank : Text.Blank.isEmpty v = true := by
    rw [Text.Blank.isEmpty, List.all_eq_true]
    intro c hc
    by_contra hne
    exact hnone ⟨c, hc, eq_false_of_ne_true hne⟩
  refine ⟨v, hv, hblank, ?_⟩
  rw [ofEnvironment_scheme, hv, Option.filter, hblank]
  rfl

theorem checkScheme_of_blank {s : Settings} (h : Text.Blank.isEmpty s.scheme = true) :
    s.checkScheme = .error (.unknownScheme s.scheme) := by
  have hne : ¬(s.scheme = "https" ∨ s.scheme = "http") := by
    rintro (hs | hs) <;> rw [hs] at h <;> exact absurd h (by decide)
  rw [Settings.checkScheme, if_neg hne]

/-- Settings with a scheme that cannot be spoken allow neither lookup. -/
theorem checks_of_checkScheme {s : Settings} {m : Misconfiguration} (h : s.checkScheme = .error m) :
    s.checkFlow = .error m ∧ s.checkClusters = .error m := by
  rw [Settings.checkFlow, Settings.checkClusters, h]
  exact ⟨rfl, rfl⟩

/-- What a command line takes from the environment is what is read from the environment alone, if the timeout is a count
and the scheme says something, and only then. With any other timeout the line is not carried out. With a scheme that says
nothing the two differ in it alone: the one has the default scheme, the other allows no lookup. -/
theorem readings_agree_iff (e : Environment) (c : Command) (line : List String) (htext : e.HoldsText)
    (hline : Complete c line) :
    ((∃ i, Invocation.read e (c.name :: line) = .ok i ∧ i.settings = .ofEnvironment e) ↔
      e.TimeoutCounts ∧ e.SchemeSays) ∧
    (¬e.TimeoutCounts → ∀ (ρ : Type) (t : Transport ρ),
      (run e (c.name :: line) t).exit = 2 ∧ (run e (c.name :: line) t).seen = []) ∧
    (e.TimeoutCounts → ¬e.SchemeSays → ∃ i, Invocation.read e (c.name :: line) = .ok i ∧
      i.settings = { Settings.ofEnvironment e with scheme := i.settings.scheme } ∧
      i.settings.scheme ≠ (Settings.ofEnvironment e).scheme ∧
      (∃ m, i.settings.checkFlow = .error m) ∧ (∃ m, i.settings.checkClusters = .error m) ∧
      (Settings.ofEnvironment e).scheme = "https") := by
  obtain ⟨q, hread⟩ := read_of_complete e hline
  have hcounts (h : e.TimeoutCounts) : ∃ i, Invocation.read e (c.name :: line) = .ok i ∧
      i.settings = { Settings.ofEnvironment e with scheme := (e.setting? .scheme).getD Settings.defaultScheme } := by
    rw [complete_top htext h] at hread
    exact ⟨_, hread, settingsOf_draw_eq h⟩
  have hmisfit (h : ¬e.TimeoutCounts) : ∃ m, Invocation.read e (c.name :: line) = .error (Scope.top.complain m) := by
    obtain ⟨m, hm⟩ := complete_top_of_misfit htext h
    rw [hm] at hread
    exact ⟨m, hread⟩
  have hdiffer (h : ¬e.SchemeSays) :
      (e.setting? .scheme).getD Settings.defaultScheme ≠ (Settings.ofEnvironment e).scheme := by
    obtain ⟨v, hv, hblank, hdefault⟩ := scheme_of_blank h
    rw [hv, hdefault, Option.getD_some]
    rintro rfl
    exact absurd hblank (by decide)
  refine ⟨⟨?agree, ?same⟩, ?timeout, ?scheme⟩
  case agree =>
    rintro ⟨i, hi, hsettings⟩
    by_cases hcount : e.TimeoutCounts
    · refine ⟨hcount, ?_⟩
      by_contra hsays
      obtain ⟨j, hj, hsettings'⟩ := hcounts hcount
      cases hi.symm.trans hj
      exact hdiffer hsays (congrArg Settings.scheme (hsettings'.symm.trans hsettings))
    · obtain ⟨m, hm⟩ := hmisfit hcount
      cases hi.symm.trans hm
  case same =>
    rintro ⟨hcount, hsays⟩
    obtain ⟨i, hi, hsettings⟩ := hcounts hcount
    refine ⟨i, hi, ?_⟩
    rw [hsettings, scheme_of_says hsays]
  case timeout =>
    intro hcount ρ t
    obtain ⟨m, hm⟩ := hmisfit hcount
    rw [run, hm]
    exact ⟨rfl, rfl⟩
  case scheme =>
    intro hcount hsays
    obtain ⟨i, hi, hsettings⟩ := hcounts hcount
    obtain ⟨v, hv, hblank, hdefault⟩ := scheme_of_blank hsays
    have hscheme : i.settings.scheme = (e.setting? .scheme).getD Settings.defaultScheme :=
      congrArg Settings.scheme hsettings
    have hempty : Text.Blank.isEmpty i.settings.scheme = true := by
      rw [hscheme, hv]
      exact hblank
    obtain ⟨hflow, hclusters⟩ := checks_of_checkScheme (checkScheme_of_blank hempty)
    refine ⟨i, hi, ?_, ?_, ⟨_, hflow⟩, ⟨_, hclusters⟩, hdefault⟩
    · rw [hscheme]
      exact hsettings
    · rw [hscheme]
      exact hdiffer hsays

/-- An environment that has the scheme and the timeout. -/
def calledBy (scheme timeout : String) : Environment :=
  ⟨[(Setting.scheme.variable, Text.Utf8.encode scheme), (Setting.timeout.variable, Text.Utf8.encode timeout)]⟩

theorem calledBy_scheme (scheme timeout : String) : (calledBy scheme timeout).setting? .scheme = some scheme :=
  Text.Utf8.decode?_encode scheme

theorem calledBy_timeout (scheme timeout : String) : (calledBy scheme timeout).setting? .timeout = some timeout :=
  Text.Utf8.decode?_encode timeout

theorem holdsText_calledBy (scheme timeout : String) : (calledBy scheme timeout).HoldsText := by
  intro s
  cases s with
  | scheme => exact .inr ⟨scheme, calledBy_scheme scheme timeout⟩
  | timeout => exact .inr ⟨timeout, calledBy_timeout scheme timeout⟩
  | _ => exact .inl rfl

theorem timeoutCounts_calledBy_iff {scheme timeout : String} :
    (calledBy scheme timeout).TimeoutCounts ↔ ∃ n, Text.Count.read timeout = .ok n := by
  simp only [Environment.TimeoutCounts, calledBy_timeout, Option.some.injEq, forall_eq', Text.Count.read_eq_ok_iff]

theorem schemeSays_calledBy_iff {scheme timeout : String} :
    (calledBy scheme timeout).SchemeSays ↔ Text.Blank.isEmpty scheme = false := by
  simp only [Environment.SchemeSays, calledBy_scheme, Option.some.injEq, forall_eq', Text.Blank.isEmpty,
    List.all_eq_false, Bool.not_eq_true]

theorem complete_bucket : Complete .clusters ["--bucket", "b"] := by
  have hgives : Gives [(.bucket, "b")] ["--bucket", "b"] := .following ⟨_, _, _, rfl⟩ (.inr (by decide)) .nothing
  exact complete_of_gives hgives (by decide) (by decide) (by decide)

theorem readings_agree_iff_bucket :
    ((calledBy "http" "+60").HoldsText ∧ Complete .clusters ["--bucket", "b"] ∧
      ∃ i, Invocation.read (calledBy "http" "+60") ["clusters", "--bucket", "b"] = .ok i ∧
        i.settings = .ofEnvironment (calledBy "http" "+60")) ∧
    (run (calledBy "http" " 60") ["clusters", "--bucket", "b"] (Directory.mk []).transport).exit = 2 ∧
    ∃ i, Invocation.read (calledBy " " "60") ["clusters", "--bucket", "b"] = .ok i ∧
      i.settings.scheme ≠ (Settings.ofEnvironment (calledBy " " "60")).scheme := by
  have hcounts : (calledBy "http" "+60").TimeoutCounts := timeoutCounts_calledBy_iff.mpr ⟨60, by decide +kernel⟩
  have hsays : (calledBy "http" "+60").SchemeSays := schemeSays_calledBy_iff.mpr (by decide)
  have hcounts' : (calledBy " " "60").TimeoutCounts := timeoutCounts_calledBy_iff.mpr ⟨60, by decide +kernel⟩
  have hblank : ¬(calledBy " " "60").SchemeSays := fun h => absurd (schemeSays_calledBy_iff.mp h) (by decide)
  have hmisfit : ¬(calledBy "http" " 60").TimeoutCounts := by
    rw [timeoutCounts_calledBy_iff]
    rintro ⟨n, hn⟩
    have hrefused : Text.Count.read " 60" = .error .notADigit := by decide +kernel
    cases hn.symm.trans hrefused
  refine ⟨⟨holdsText_calledBy _ _, complete_bucket, ?_⟩, ?_, ?_⟩
  · exact (readings_agree_iff _ .clusters _ (holdsText_calledBy "http" "+60") complete_bucket).1.mpr ⟨hcounts, hsays⟩
  · exact ((readings_agree_iff _ .clusters _ (holdsText_calledBy "http" " 60") complete_bucket).2.1 hmisfit _ _).1
  · obtain ⟨i, hi, -, hne, -⟩ :=
      (readings_agree_iff _ .clusters _ (holdsText_calledBy " " "60") complete_bucket).2.2 hcounts' hblank
    exact ⟨i, hi, hne⟩

end CommandLine
end FlowCluster
