import FlowCluster.Proofs.CommandLine.Outcome
import FlowCluster.Proofs.Json.Written
import FlowCluster.Proofs.Refusals

/-! # Runs that fail do not tell passwords

A run that fails prints nothing and reports the causes of the failure, behind its log. Over two lists of clusters that
differ in one password it fails for the same causes, and all that it logs is the same, but that a refused body is logged
too. Only a log for debugging shows it. -/

namespace FlowCluster

open Json

variable {ρ ε : Type} {s : Settings} {t t' : Transport ρ} {url id : String} {body body' : Bytes}

namespace CommandLine

/-- The flow that an action looks up. -/
def Action.flow? : Action → Option String
  | .resolve _ id _ _ _ => some id
  | .flow _ id => some id
  | .clusters _ => none

section Perform

variable {f : LookupFailure → ε} {a : Action} (hflow : ∀ id, a.flow? = some id → s.flowUrl id ≠ .ok url)

include hflow

theorem perform_blur (h : Transport.DifferAt url body body' t t') (hbodies : RefusedAlike f body body') :
    (a.perform s t).blur f = (a.perform s t').blur f := by
  cases a with
  | resolve apiKey id cluster strict showPassword =>
    rw [Action.perform_resolve, Action.perform_resolve, Attempt.blur_map, Attempt.blur_map]
    cases strict with
    | true => exact congrArg _ (h.blur_resolveStrict (hflow id rfl) hbodies apiKey cluster)
    | false => exact congrArg _ (h.blur_resolve (hflow id rfl) hbodies apiKey cluster)
  | flow apiKey id =>
    rw [Action.perform_flow, Action.perform_flow, Resolution.flow_congr h.elsewhere (hflow id rfl)]
  | clusters bucket =>
    rw [Action.perform, Action.perform, Attempt.blur_bind, Attempt.blur_bind, h.blur_clusters hbodies]

/-- Where lists differ in passwords alone, an action that fails over one goes the same way over the other. -/
theorem perform_of_error {cs ds : List Cluster} (h : DifferInPasswords url cs ds t t') {e : LookupFailure}
    (he : (a.perform s t).result = .error e) : a.perform s t = a.perform s t' := by
  cases a with
  | resolve apiKey id cluster strict showPassword =>
    rw [Action.perform_resolve, Attempt.map_result] at he
    rw [Action.perform_resolve, Action.perform_resolve]
    have herror := error_of_map he
    cases strict with
    | true => exact congrArg _ (Attempt.eq_of_map_eq (h.resolveStrict (hflow id rfl) apiKey cluster) herror)
    | false =>
      -- A lenient resolution does not fail after it has the clusters, so the two never part.
      have hboth := Attempt.eq_of_map_eq (h.bucketClusters (hflow id rfl) apiKey)
        (Resolution.bucketClusters_of_resolve herror)
      have hresolve : Resolution.resolve s t apiKey id cluster = Resolution.resolve s t' apiKey id cluster := by
        rw [Resolution.resolve, Resolution.resolve, hboth]
      exact congrArg _ hresolve
  | flow apiKey id =>
    rw [Action.perform_flow, Action.perform_flow, Resolution.flow_congr h.elsewhere (hflow id rfl)]
  | clusters bucket => exact perform_clusters h s bucket

end Perform

/-- A log that does not show why a body was not read, which is told with the body. -/
def HidesBodies (f : Log.Filter) : Prop := ∀ u r b, f.shows (.decodingFailed u r b) = false

/-- A limit without a target is about every event. -/
theorem shows_upTo (l : Level) (e : Event) : (Log.Filter.upTo l).shows e = decide (Log.rank e.level ≤ Log.rank l) := by
  have happlies : (⟨[], none, some l⟩ : Log.Rule).appliesTo e = true := by
    rw [Log.Rule.appliesTo, List.isPrefixOf_nil_left, Option.all_none, Bool.and_self]
  have hrule : (Log.Filter.upTo l).rule? e = some ⟨[], none, some l⟩ := by
    simp only [Log.Filter.upTo, Log.Filter.rule?, List.foldl_cons, List.foldl_nil, happlies, Option.any_none,
      Bool.not_false, Bool.and_self, ↓reduceIte]
  rw [Log.Filter.shows, hrule, Option.any_some, Log.Rule.lets, Option.any_some]

/-- Of the levels, those hide bodies that hide what is there for debugging. -/
theorem hidesBodies_upTo_iff (l : Level) : HidesBodies (.upTo l) ↔ l ≠ .debug ∧ l ≠ .trace := by
  have hlevel (u : String) (r : Rejection) (b : Bytes) : (Event.decodingFailed u r b).level = .debug := rfl
  have hhides : HidesBodies (.upTo l) ↔ ¬Log.rank .debug ≤ Log.rank l := by
    simp only [HidesBodies, shows_upTo, hlevel, decide_eq_false_iff_not]
    exact ⟨fun h => h "" ⟨.tooDeep, ⟨1, 0⟩⟩ [], fun h _ _ _ => h⟩
  rw [hhides]
  cases l <;> decide

/-- Two outcomes of an invocation that failed for the same reason, after the same was sent and reported, apart from why
bodies were not read. -/
structure FailAlike (i : Invocation) (f : Log.Filter) (x y : Outcome ρ) : Prop where
  exit : x.exit = 1 ∧ y.exit = 1
  printed : x.printed = "" ∧ y.printed = ""
  seen : x.seen = y.seen
  reported : ∃ cause events events',
    (events.filter fun e : Event => !e.isDecodingFailure) = events'.filter (fun e => !e.isDecodingFailure) ∧
    x.reported = i.log f events ++ report i.action.heading cause ∧
    y.reported = i.log f events' ++ report i.action.heading cause

theorem Invocation.error_of_exit {i : Invocation} {f : Log.Filter} (h : (i.run f t).exit = 1) :
    ∃ e, (i.action.perform i.settings t).result = .error e := by
  cases hresult : (i.action.perform i.settings t).result with
  | ok v =>
    rw [Invocation.run, hresult] at h
    cases h
  | error e => exact ⟨e, rfl⟩

theorem Invocation.run_of_error {i : Invocation} {f : Log.Filter} {e : LookupFailure}
    (h : (i.action.perform i.settings t).result = .error e) :
    i.run f t = ⟨1, "",
      i.log f (.starting i.settings.flowHost i.settings.clusterHost :: (i.action.perform i.settings t).events) ++
        report i.action.heading e, (i.action.perform i.settings t).seen⟩ := by
  rw [run, h]

namespace FailAlike

variable {i : Invocation} {f : Log.Filter}

/-- Where the log hides bodies, they are one outcome. -/
theorem eq {x y : Outcome ρ} (h : FailAlike i f x y) (hf : HidesBodies f) : x = y := by
  have hshown (events : List Event) :
      events.filter f.shows = (events.filter fun e => !e.isDecodingFailure).filter f.shows := by
    rw [List.filter_filter]
    refine List.filter_congr fun e _ => ?_
    cases e with
    | decodingFailed u r b => rw [hf, Bool.false_and]
    | _ => exact (Bool.and_true _).symm
  obtain ⟨exit, printed, reported, seen⟩ := x
  obtain ⟨exit', printed', reported', seen'⟩ := y
  obtain ⟨⟨rfl, rfl⟩, ⟨rfl, rfl⟩, rfl, cause, events, events', hevents, rfl, rfl⟩ := h
  rw [Invocation.log, Invocation.log, hshown events, hevents, ← hshown]

theorem of_blur {g : LookupFailure → ε} (hg : g.Injective)
    (h : (i.action.perform i.settings t).blur g = (i.action.perform i.settings t').blur g) {e : LookupFailure}
    (he : (i.action.perform i.settings t).result = .error e) : FailAlike i f (i.run f t) (i.run f t') := by
  have he' : (i.action.perform i.settings t').result = .error e :=
    (mapError_injective hg (congrArg Attempt.result h)).symm.trans he
  have hseen : (i.action.perform i.settings t).seen = (i.action.perform i.settings t').seen :=
    congrArg (fun x : Attempt ρ ε Json.Value => x.seen) h
  have hevents : ((i.action.perform i.settings t).events.filter fun e => !e.isDecodingFailure) =
      (i.action.perform i.settings t').events.filter fun e => !e.isDecodingFailure :=
    congrArg (fun x : Attempt ρ ε Json.Value => x.events) h
  rw [Invocation.run_of_error he, Invocation.run_of_error he']
  refine ⟨⟨rfl, rfl⟩, ⟨rfl, rfl⟩, hseen, e, _, _, ?_, rfl, rfl⟩
  rw [List.filter_cons, List.filter_cons, hevents]

end FailAlike

end CommandLine

theorem DifferInPasswords.symm {cs ds : List Cluster} (h : DifferInPasswords url cs ds t t') :
    DifferInPasswords url ds cs t' t where
  elsewhere r hr := (h.elsewhere r hr).symm
  there r hr := by
    obtain ⟨own, own', body, body', seen, events, ht, ht', hcs, hds⟩ := h.there r hr
    exact ⟨own', own, body', body, seen, events, ht', ht, hds, hcs⟩
  alike := h.alike.symm

/-- Two transports that differ in the lists of clusters at one address, which are refused alike, up to what is told of a
kind of values, or are the same up to their passwords. -/
inductive ListsAlike (k : Kind) (url : String) (t t' : Transport ρ) : Prop
  | refused {body body' : Bytes} :
      Transport.DifferAt url body body' t t' → RefusedAlike k.tell body body' → ListsAlike k url t t'
  | read {cs ds : List Cluster} : DifferInPasswords url cs ds t t' → ListsAlike k url t t'

namespace ListsAlike

variable {k : Kind}

/-- One password in place of another of its kind and length. -/
theorem of_passwords {b v v' r : Bytes} (hb : BeforeValue "password" b) (hv : k.Writes v) (hv' : k.Writes v')
    (hlength : v.length = v'.length) (h : Transport.DifferAt url (b ++ (v ++ r)) (b ++ (v' ++ r)) t t') :
    ListsAlike k url t t' := by
  rcases listings_alike hb hv hv' hlength r with hrefused | ⟨cs, ds, hcs, hds, halike⟩
  · exact .refused h hrefused
  · have hdiffer : DifferInPasswords url cs ds t t' := by
      refine ⟨h.elsewhere, fun r hr => ?_, halike⟩
      obtain ⟨own, own', seen, events, ht, ht'⟩ := h.there r hr
      exact ⟨own, own', _, _, seen, events, ht, ht', hcs, hds⟩
    exact .read hdiffer

theorem clusters (h : ListsAlike k url t t') (s : Settings) (bucket : String) :
    EndAlike k (Resolution.clusters s t bucket).result (Resolution.clusters s t' bucket).result := by
  cases h with
  | refused h hbodies => exact .of_tell (congrArg Attempt.result (h.blur_clusters hbodies s bucket))
  | read h =>
    have hresult := congrArg Attempt.result (h.clusters s bucket)
    rw [Attempt.map_result, Attempt.map_result] at hresult
    exact .of_map hresult

theorem resolve (h : ListsAlike k url t t') (hflow : s.flowUrl id ≠ .ok url) (apiKey identifier : String) :
    EndAlike k (Resolution.resolve s t apiKey id identifier).result
      (Resolution.resolve s t' apiKey id identifier).result := by
  cases h with
  | refused h hbodies => exact .of_tell (congrArg Attempt.result (h.blur_resolve hflow hbodies apiKey identifier))
  | read h => exact .of_map (h.resolve_result hflow apiKey identifier)

theorem resolveStrict (h : ListsAlike k url t t') (hflow : s.flowUrl id ≠ .ok url) (apiKey identifier : String) :
    EndAlike k (Resolution.resolveStrict s t apiKey id identifier).result
      (Resolution.resolveStrict s t' apiKey id identifier).result := by
  cases h with
  | refused h hbodies =>
    exact .of_tell (congrArg Attempt.result (h.blur_resolveStrict hflow hbodies apiKey identifier))
  | read h =>
    have hresult := congrArg Attempt.result (h.resolveStrict hflow apiKey identifier)
    rw [Attempt.map_result, Attempt.map_result] at hresult
    exact .of_map hresult

/-- A run that fails over either fails alike over both. -/
theorem run (h : ListsAlike k url t t') (hk : k.isHidden = true) {i : CommandLine.Invocation} (f : Log.Filter)
    (hflow : ∀ id, i.action.flow? = some id → i.settings.flowUrl id ≠ .ok url)
    (hexit : (i.run f t).exit = 1 ∨ (i.run f t').exit = 1) : CommandLine.FailAlike i f (i.run f t) (i.run f t') := by
  have hfails : ∃ e, (i.action.perform i.settings t).result = .error e ∨
      (i.action.perform i.settings t').result = .error e := by
    rcases hexit with hexit | hexit
    · obtain ⟨e, he⟩ := CommandLine.Invocation.error_of_exit hexit
      exact ⟨e, .inl he⟩
    · obtain ⟨e, he⟩ := CommandLine.Invocation.error_of_exit hexit
      exact ⟨e, .inr he⟩
  obtain ⟨e, he⟩ := hfails
  have hblur : (i.action.perform i.settings t).blur k.tell = (i.action.perform i.settings t').blur k.tell := by
    cases h with
    | refused h hbodies => exact CommandLine.perform_blur hflow h hbodies
    | read h =>
      rcases he with he | he
      · rw [CommandLine.perform_of_error hflow h he]
      · rw [CommandLine.perform_of_error hflow h.symm he]
  have hresult : (i.action.perform i.settings t).result = (i.action.perform i.settings t').result :=
    mapError_injective (Kind.tell_injective hk) (congrArg Attempt.result hblur)
  rw [← hresult, or_self] at he
  exact .of_blur (Kind.tell_injective hk) hblur he

end ListsAlike

open CommandLine

/-- No lookup that fails tells a password. A list of clusters with a password in it is refused or not, whatever the
password is, of all texts of one length, and with the same reasons. A run that fails over the one list fails over the
other, with the same report, and where the log hides bodies nothing at all tells the two runs apart. A number, or a string
that denotes no text, is refused in place of a password like any other of its length, but not for the same reason. -/
theorem failures_hide_passwords (s : Settings) (bucket url : String) (k : Kind) (before v v' after : Bytes)
    (t t' : Transport ρ) (hurl : s.bucketUrl bucket = .ok url) (hbefore : BeforeValue "password" before)
    (hv : k.Writes v) (hv' : k.Writes v') (hlength : v.length = v'.length)
    (h : Transport.DifferAt url (before ++ (v ++ after)) (before ++ (v' ++ after)) t t') :
    (s.flowHost = s.clusterHost → ∀ id, s.flowUrl id ≠ .ok url) ∧
    (∀ b, EndAlike k (Resolution.clusters s t b).result (Resolution.clusters s t' b).result) ∧
    (∀ apiKey id, s.flowUrl id ≠ .ok url → ∀ identifier,
      EndAlike k (Resolution.resolve s t apiKey id identifier).result
        (Resolution.resolve s t' apiKey id identifier).result ∧
      EndAlike k (Resolution.resolveStrict s t apiKey id identifier).result
        (Resolution.resolveStrict s t' apiKey id identifier).result) ∧
    ∀ e args i, k.isHidden = true → Invocation.read e args = .ok i → i.settings = s →
      (∀ id, i.action.flow? = some id → s.flowUrl id ≠ .ok url) →
      (run e args t).exit = 1 ∨ (run e args t').exit = 1 →
      FailAlike i (i.filter e) (run e args t) (run e args t') ∧
      (HidesBodies (i.filter e) → run e args t = run e args t') := by
  have hlists : ListsAlike k url t t' := .of_passwords hbefore hv hv' hlength h
  refine ⟨?_, ?_, ?_, ?_⟩
  · intro hhost id hflow
    exact Settings.flowUrl_ne_bucketUrl hhost hflow hurl
  · exact hlists.clusters s
  · intro apiKey id hflow identifier
    exact ⟨hlists.resolve hflow apiKey identifier, hlists.resolveStrict hflow apiKey identifier⟩
  · rintro e args i hk hread rfl hflow hexit
    rw [run_of_read hread, run_of_read hread] at hexit ⊢
    have hfail := hlists.run hk (i.filter e) hflow hexit
    exact ⟨hfail, hfail.eq⟩

/-- What stands before the password of the first cluster of a list. -/
def beforePassword : Bytes := Text.Utf8.encode "[\x7b\"identifier\":\"c\",\"password\":"

theorem beforeValue_password : BeforeValue "password" beforePassword := by
  have hidentifier : Bracket.object.Item
      (bytesOf (stringChars "identifier") ++ ':'.toUInt8 :: bytesOf (stringChars "c")) :=
    ⟨_, [], [], _, (spells_text "identifier").scans, blank_nil, blank_nil, (quoted_stringChars "c").isValue, rfl⟩
  have hmember : BeforeMember "password" _ :=
    .members (.item (.first blank_nil) hidentifier .here) (.next blank_nil blank_nil) (spells_text "password") blank_nil
      blank_nil
  have hvalue : ∃ b, BeforeValue "password" b ∧ b = beforePassword :=
    ⟨_, .items blank_nil .here (.first blank_nil) hmember, by decide +kernel⟩
  obtain ⟨_, hvalue, rfl⟩ := hvalue
  exact hvalue

/-- A directory with a flow, and for its bucket a list with a password in it. -/
def listingDirectory (password rest : Bytes) : Directory :=
  guardedFlow.publish "https://hub/api/bucket/b/clusters" (.answer 200 (some (beforePassword ++ (password ++ rest))) none)

/-- The rest of a list, with an identifier in it that is no text. -/
def misfit : Bytes := Text.Utf8.encode "\x7d,\x7b\"identifier\":5\x7d]"

theorem failures_hide_passwords_misfit :
    let url := "https://hub/api/bucket/b/clusters"
    let one := bytesOf (stringChars "one")
    let two := bytesOf (stringChars "two")
    let t := (listingDirectory one misfit).transport
    let t' := (listingDirectory two misfit).transport
    let i : Invocation := ⟨hub, false, false, .resolve "key" "f" "c" false false⟩
    hub.bucketUrl "b" = .ok url ∧ BeforeValue "password" beforePassword ∧ Kind.text.Writes one ∧ Kind.text.Writes two ∧
    one.length = two.length ∧
    Transport.DifferAt url (beforePassword ++ (one ++ misfit)) (beforePassword ++ (two ++ misfit)) t t' ∧
    Kind.text.isHidden = true ∧ Invocation.read ⟨[]⟩ hubArguments = .ok i ∧ hub.flowUrl "f" ≠ .ok url ∧
    HidesBodies (i.filter ⟨[]⟩) ∧ (run ⟨[]⟩ hubArguments t).exit = 1 ∧
    run ⟨[]⟩ hubArguments t = run ⟨[]⟩ hubArguments t' := by
  intro url one two t t' i
  have hurl : hub.bucketUrl "b" = .ok url := by decide +kernel
  have hone : Kind.text.Writes one := ⟨"one", quoted_stringChars "one"⟩
  have htwo : Kind.text.Writes two := ⟨"two", quoted_stringChars "two"⟩
  have hlength : one.length = two.length := by decide +kernel
  have hdiffer : Transport.DifferAt url (beforePassword ++ (one ++ misfit)) (beforePassword ++ (two ++ misfit)) t t' :=
    .of_publish guardedFlow url _ _
  have hread : Invocation.read ⟨[]⟩ hubArguments = .ok i := by decide +kernel
  have hhides : HidesBodies (i.filter ⟨[]⟩) := (hidesBodies_upTo_iff .info).mpr (by decide)
  have hexit : (run ⟨[]⟩ hubArguments t).exit = 1 := by decide +kernel
  obtain ⟨hhost, -, -, hrun⟩ := failures_hide_passwords hub "b" url .text beforePassword one two misfit t t' hurl
    beforeValue_password hone htwo hlength hdiffer
  have hflow : hub.flowUrl "f" ≠ .ok url := hhost rfl "f"
  refine ⟨hurl, beforeValue_password, hone, htwo, hlength, hdiffer, rfl, hread, hflow, hhides, hexit, ?_⟩
  refine (hrun ⟨[]⟩ hubArguments i rfl hread rfl ?_ (.inl hexit)).2 hhides
  rintro id hid
  cases hid
  exact hflow

/-- Not all passwords of one kind and length are hidden. The log for debugging has the body in it, a string that is no
Unicode text is refused, the place where it goes wrong is told, and a number is named where it is refused. -/
theorem failures_tell_passwords :
    let verbose (password : String) :=
      run ⟨[]⟩ ("--verbose" :: hubArguments) (listingDirectory (Text.Utf8.encode password) misfit).transport
    let listed (password : String) (rest : Bytes) :=
      (Resolution.clusters hub (listingDirectory (Text.Utf8.encode password) rest).transport "b").result
    let alone := Text.Utf8.encode "\x7d]"
    BeforeValue "password" beforePassword ∧
    (Kind.text.Writes (Text.Utf8.encode "\"one\"") ∧ Kind.text.Writes (Text.Utf8.encode "\"two\"") ∧
      (Text.Utf8.encode "\"one\"").length = (Text.Utf8.encode "\"two\"").length ∧
      (verbose "\"one\"").exit = 1 ∧ (verbose "\"two\"").exit = 1 ∧
      (verbose "\"one\"").reported ≠ (verbose "\"two\"").reported) ∧
    (ScalarForm (Text.Utf8.encode "\"\\ud800\"") ∧ ScalarForm (Text.Utf8.encode "\"secret\"") ∧
      (Text.Utf8.encode "\"\\ud800\"").length = (Text.Utf8.encode "\"secret\"").length ∧
      (listed "\"\\ud800\"" alone).isOk = false ∧ (listed "\"secret\"" alone).isOk = true) ∧
    (ScalarForm (Text.Utf8.encode "\"\\ud800no\"") ∧ ScalarForm (Text.Utf8.encode "\"no\\ud800\"") ∧
      (Text.Utf8.encode "\"\\ud800no\"").length = (Text.Utf8.encode "\"no\\ud800\"").length ∧
      (listed "\"\\ud800no\"" alone).isOk = false ∧ (listed "\"no\\ud800\"" alone).isOk = false ∧
      (listed "\"\\ud800no\"" alone).mapError LookupFailure.chain ≠
        (listed "\"no\\ud800\"" alone).mapError LookupFailure.chain) ∧
    Kind.number.Writes (Text.Utf8.encode "111") ∧ Kind.number.Writes (Text.Utf8.encode "222") ∧
      (Text.Utf8.encode "111").length = (Text.Utf8.encode "222").length ∧
      (listed "111" alone).isOk = false ∧ (listed "222" alone).isOk = false ∧
      (listed "111" alone).mapError LookupFailure.chain ≠ (listed "222" alone).mapError LookupFailure.chain := by
  intro verbose listed alone
  have htext {v : Bytes} (t : String) (h : v = bytesOf (stringChars t)) : Kind.text.Writes v :=
    ⟨t, h ▸ quoted_stringChars t⟩
  have hstring {v : Bytes} (k : Bytes) (h : v = '"'.toUInt8 :: (k ++ ['"'.toUInt8])) (hk : Scans k) : ScalarForm v :=
    h ▸ .string hk
  have hlone {e : Bytes} (he : Scans e) : Scans ('\\'.toUInt8 :: ('u'.toUInt8 :: Text.Utf8.encode "d800" ++ e)) :=
    .escape (.numbered (n := 0xD800) ⟨_, _, _, _, rfl, rfl⟩) he
  have hno : Scans (Text.Utf8.encode "no") := (Spells.of_plain (by decide +kernel)).scans
  have hsecret : Scans (Text.Utf8.encode "secret") := (Spells.of_plain (by decide +kernel)).scans
  have hnumber {v : Bytes} (b : UInt8) (ds : Bytes) (h : v = b :: ds ++ ([] ++ [])) (hb : Numeral.isDigit b = true)
      (hne : b ≠ '0'.toUInt8) (hds : ∀ c ∈ ds, Numeral.isDigit c = true) : Kind.number.Writes v := by
    rw [h]
    exact ⟨_, .positive (.digits hb hne hds) .none .none⟩
  refine ⟨beforeValue_password, ⟨?_, ?_, ?_⟩, ⟨?_, ?_, ?_⟩, ⟨?_, ?_, ?_⟩, ?_, ?_, ?_⟩
  · exact htext "one" (by decide +kernel)
  · exact htext "two" (by decide +kernel)
  · decide +kernel
  · exact hstring _ (by decide +kernel) (hlone .done)
  · exact hstring _ (by decide +kernel) hsecret
  · decide +kernel
  · exact hstring _ (by decide +kernel) (hlone hno)
  · exact hstring _ (by decide +kernel) (.plain (b := 'n'.toUInt8) (by decide) (.plain (b := 'o'.toUInt8) (by decide)
      (hlone .done)))
  · decide +kernel
  · exact hnumber '1'.toUInt8 (Text.Utf8.encode "11") (by decide +kernel) (by decide) (by decide) (by decide +kernel)
  · exact hnumber '2'.toUInt8 (Text.Utf8.encode "22") (by decide +kernel) (by decide) (by decide) (by decide +kernel)
  · decide +kernel

end FlowCluster
