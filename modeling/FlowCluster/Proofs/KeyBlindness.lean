import FlowCluster.Proofs.Following

/-! # Lookups do not tell keys

A key opens a request and goes no further. Where the directories answer by the address alone, calls under other keys
end alike and report alike, and their requests differ in nothing but the keys: those for flows bear the key of the
caller, and those for clusters the master key. The settings tell no more of the master key than whether it is blank. -/

namespace FlowCluster

open Attempt

def Settings.withMasterKey (s : Settings) (key : String) : Settings := { s with masterKey := key }

def Request.withKey (r : Request) (key : String) : Request := { r with apiKey := key }

/-- A call of another caller. -/
def Step.withKey (x : Step) (key : String) : Step := x.mapKey fun _ => key

/-- An entry of another caller. Pages are put in place without a key. -/
def SessionEntry.withKey : SessionEntry → String → SessionEntry
  | .step x, key => .step (x.withKey key)
  | .publish url page, _ => .publish url page

/-- The answers of a directory by address, to requests. -/
abbrev toRequests (answer : String → Except CallFailure Response × List Event) (r : Request) :
    Except CallFailure Response := (answer r.url).1

/-- The requests of a call by their kinds. The one for a flow is sent before any for clusters. -/
structure Step.Sends (s : Settings) (answer : String → Except CallFailure Response × List Event) (x : Step)
    (flows buckets : List Request) : Prop where
  flow : AtMostOne (x.FlowRequest s) flows
  bucket : AtMostOne (x.BucketRequest s (toRequests answer)) buckets
  first : x.flowCall? ≠ none → flows = [] → buckets = []

/-- What is seen of a call, and what is seen of it under other keys. -/
def Step.Rekeys (s : Settings) (answer : String → Except CallFailure Response × List Event) (master : String) (x : Step)
    (caller : String) (seen seen' : List Request) : Prop :=
  ∃ flows buckets, x.Sends s answer flows buckets ∧ seen = flows ++ buckets ∧
    seen' = (flows.map fun r => r.withKey caller) ++ buckets.map fun r => r.withKey master

/-- A call, and the same call under other keys. -/
structure SameButKeys (s : Settings) (answer : String → Except CallFailure Response × List Event) (master : String)
    (x : Step) (caller : String) (a b : Attempt Request StepFailure Answer) : Prop where
  result : b.result = a.result
  events : b.events = a.events
  requests : x.Rekeys s answer master caller a.seen b.seen

/-- A session, and the same session under other keys. Each entry comes with the key that takes the place of its own. -/
inductive EachSameButKeys (s : Settings) (master : String) : Directory → List (SessionEntry × String) →
    List (Option (Attempt Request StepFailure Answer)) → List (Option (Attempt Request StepFailure Answer)) → Prop
  | done (d : Directory) : EachSameButKeys s master d [] [] []
  | step {d : Directory} {x : Step} {caller : String} {a b} {entries attempts attempts'}
      (h : SameButKeys s d.answer master x caller a b) (rest : EachSameButKeys s master d entries attempts attempts') :
      EachSameButKeys s master d ((.step x, caller) :: entries) (some a :: attempts) (some b :: attempts')
  | publish {d : Directory} {url : String} {page : Page} {caller : String} {entries attempts attempts'}
      (rest : EachSameButKeys s master (d.publish url page) entries attempts attempts') :
      EachSameButKeys s master d ((.publish url page, caller) :: entries) (none :: attempts) (none :: attempts')

variable {s : Settings} {answer : String → Except CallFailure Response × List Event}
  {master caller apiKey id bucket : String} {x : Step}

namespace Settings

theorem flowUrl_withMasterKey (s : Settings) (key id : String) : (s.withMasterKey key).flowUrl id = s.flowUrl id := rfl

theorem bucketUrl_withMasterKey (s : Settings) (key bucket : String) :
    (s.withMasterKey key).bucketUrl bucket = s.bucketUrl bucket := rfl

theorem checkFlow_withMasterKey (s : Settings) (key : String) : (s.withMasterKey key).checkFlow = s.checkFlow := rfl

/-- The checks of the settings ask of the master key only whether it is blank. -/
theorem checkClusters_withMasterKey (h : Text.Blank.isEmpty s.masterKey = Text.Blank.isEmpty master) :
    (s.withMasterKey master).checkClusters = s.checkClusters := by
  rw [checkClusters, checkClusters, checkPresent, checkPresent, checkPresent, checkPresent, h]
  rfl

end Settings

namespace Step

/-- Two requests for one address are answered alike. -/
private theorem follows_byAddress (url key key' : String) :
    Follows (fun _ => True) (fun _ _ => True) ((Transport.byAddress answer).fetch ⟨url, key⟩)
      ((Transport.byAddress answer).fetch ⟨url, key'⟩) :=
  fun _ => ⟨rfl, rfl, .cons trivial .nil⟩

private theorem follows_lookup_flow (apiKey caller id : String) :
    Follows (fun _ => True) (fun _ _ => True) (Lookup.flow s (.byAddress answer) apiKey id)
      (Lookup.flow (s.withMasterKey master) (.byAddress answer) caller id) := by
  apply Lookup.follows_flow (s.flowUrl_withMasterKey master id).symm
  intro url _
  exact follows_byAddress url apiKey caller

private theorem follows_lookup_clusters (bucket : String) :
    Follows (fun _ => True) (fun _ _ => True) (Lookup.clusters s (.byAddress answer) bucket)
      (Lookup.clusters (s.withMasterKey master) (.byAddress answer) bucket) := by
  apply Lookup.follows_clusters (s.bucketUrl_withMasterKey master bucket).symm
  intro url _
  exact follows_byAddress url s.masterKey master

theorem flow_result_withKey (apiKey caller id : String) :
    (Resolution.flow (s.withMasterKey master) (.byAddress answer) caller id).result =
      (Resolution.flow s (.byAddress answer) apiKey id).result := by
  have hflow : Follows (fun _ => True) (fun _ _ => True) (Resolution.flow s (.byAddress answer) apiKey id)
      (Resolution.flow (s.withMasterKey master) (.byAddress answer) caller id) :=
    Resolution.follows_flow (s.checkFlow_withMasterKey master).symm (follows_lookup_flow apiKey caller id)
  exact (hflow fun _ _ => trivial).1.symm

/-- Under other keys a call ends alike and reports alike. -/
theorem follows_withKey (h : Text.Blank.isEmpty s.masterKey = Text.Blank.isEmpty master)
    (answer : String → Except CallFailure Response × List Event) (x : Step) (caller : String) :
    Follows (fun _ => True) (fun _ _ => True) (x.run s (.byAddress answer))
      ((x.withKey caller).run (s.withMasterKey master) (.byAddress answer)) := by
  rw [withKey]
  apply follows_run_mapKey (s.checkFlow_withMasterKey master).symm (Settings.checkClusters_withMasterKey h).symm
  · intro apiKey id _
    exact follows_lookup_flow apiKey caller id
  · exact follows_lookup_clusters

theorem lookup_flow_seen_withKey (apiKey caller id : String) :
    (Lookup.flow (s.withMasterKey master) (.byAddress answer) caller id).seen =
      (Lookup.flow s (.byAddress answer) apiKey id).seen.map fun r => r.withKey caller := by
  rw [Lookup.flow_seen, Lookup.flow_seen, Settings.flowUrl_withMasterKey]
  cases s.flowUrl id with
  | ok url => rfl
  | error e => rfl

theorem lookup_clusters_seen_withKey (bucket : String) :
    (Lookup.clusters (s.withMasterKey master) (.byAddress answer) bucket).seen =
      (Lookup.clusters s (.byAddress answer) bucket).seen.map fun r => r.withKey master := by
  rw [Lookup.clusters_seen, Lookup.clusters_seen, Settings.bucketUrl_withMasterKey]
  cases s.bucketUrl bucket with
  | ok url => rfl
  | error e => rfl

theorem flow_seen_withKey (apiKey caller id : String) :
    (Resolution.flow (s.withMasterKey master) (.byAddress answer) caller id).seen =
      (Resolution.flow s (.byAddress answer) apiKey id).seen.map fun r => r.withKey caller := by
  rw [Resolution.flow_seen, Resolution.flow_seen, Settings.checkFlow_withMasterKey]
  cases s.checkFlow with
  | ok _ => exact lookup_flow_seen_withKey apiKey caller id
  | error e => rfl

theorem clusters_seen_withKey (h : Text.Blank.isEmpty s.masterKey = Text.Blank.isEmpty master) (bucket : String) :
    (Resolution.clusters (s.withMasterKey master) (.byAddress answer) bucket).seen =
      (Resolution.clusters s (.byAddress answer) bucket).seen.map fun r => r.withKey master := by
  rw [Resolution.clusters_seen, Resolution.clusters_seen, Settings.checkClusters_withMasterKey h]
  cases s.checkClusters with
  | ok _ => exact lookup_clusters_seen_withKey bucket
  | error e => rfl

theorem rekeys_flow {seen : List Request} (hx : x.flowCall? = some (apiKey, id))
    (h : AtMostOne (fun r => r.apiKey = apiKey ∧ s.flowUrl id = .ok r.url) seen) :
    x.Rekeys s answer master caller seen (seen.map fun r => r.withKey caller) := by
  refine ⟨seen, [], ⟨atMostOne_flowRequest hx h, .inl rfl, fun _ _ => rfl⟩, ?_, ?_⟩
  · rw [List.append_nil]
  · rw [List.map_nil, List.append_nil]

theorem rekeys_clusters {seen : List Request} (hx : x.flowCall? = none) (hb : x.Names s (toRequests answer) bucket)
    (h : AtMostOne (fun r => r.apiKey = s.masterKey ∧ s.bucketUrl bucket = .ok r.url) seen) :
    x.Rekeys s answer master caller seen (seen.map fun r => r.withKey master) :=
  ⟨[], seen, ⟨.inl rfl, atMostOne_bucketRequest hb h, fun hn _ => absurd hx hn⟩, rfl, rfl⟩

/-- A flow that was found was asked for. -/
private theorem flow_seen_ne_nil {f : Flow} (h : (Resolution.flow s (.byAddress answer) apiKey id).result = .ok f) :
    (Resolution.flow s (.byAddress answer) apiKey id).seen ≠ [] := by
  obtain ⟨hcheck, hlookup⟩ := Resolution.flow_eq_ok_iff.mp h
  obtain ⟨url, hurl, -⟩ := Lookup.flow_eq_ok_iff.mp hlookup
  rw [Resolution.flow_seen, hcheck, Lookup.flow_seen, hurl]
  exact List.cons_ne_nil _ _

theorem rekeys_bucketClusters (h : Text.Blank.isEmpty s.masterKey = Text.Blank.isEmpty master)
    (hx : x.flowCall? = some (apiKey, id))
    (hn : ∀ bucket, FlowNames s (toRequests answer) apiKey id bucket → x.Names s (toRequests answer) bucket) :
    x.Rekeys s answer master caller (Resolution.bucketClusters s (.byAddress answer) apiKey id).seen
      (Resolution.bucketClusters (s.withMasterKey master) (.byAddress answer) caller id).seen := by
  have hflow : AtMostOne (x.FlowRequest s) (Resolution.flow s (.byAddress answer) apiKey id).seen :=
    atMostOne_flowRequest hx (atMostOne_flow apiKey id)
  rw [Resolution.bucketClusters_seen, Resolution.bucketClusters_seen, flow_result_withKey apiKey,
    flow_seen_withKey apiKey]
  cases hf : (Resolution.flow s (.byAddress answer) apiKey id).result with
  | error e => exact ⟨_, [], ⟨hflow, .inl rfl, fun _ _ => rfl⟩, rfl, rfl⟩
  | ok f =>
    have hbucket : AtMostOne (x.BucketRequest s (toRequests answer))
        (Resolution.clusters s (.byAddress answer) f.bucket).seen :=
      atMostOne_bucketRequest (hn _ (flowNames_of_flow hf)) (atMostOne_clusters f.bucket)
    refine ⟨_, _, ⟨hflow, hbucket, fun _ hnil => absurd hnil (flow_seen_ne_nil hf)⟩, rfl, ?_⟩
    exact congrArg _ (clusters_seen_withKey h f.bucket)

theorem rekeys_run (h : Text.Blank.isEmpty s.masterKey = Text.Blank.isEmpty master) (x : Step) (caller : String) :
    x.Rekeys s answer master caller (x.run s (.byAddress answer)).seen
      ((x.withKey caller).run (s.withMasterKey master) (.byAddress answer)).seen := by
  cases x with
  | resolve apiKey id cluster =>
    rw [withKey, mapKey, run, run, mapFailure_seen, mapFailure_seen, map_seen, map_seen, Resolution.resolve_seen,
      Resolution.resolve_seen]
    exact rekeys_bucketClusters h rfl fun _ hb => hb
  | resolveStrict apiKey id cluster =>
    rw [withKey, mapKey, run, run, mapFailure_seen, mapFailure_seen, map_seen, map_seen,
      Resolution.resolveStrict_seen, Resolution.resolveStrict_seen]
    exact rekeys_bucketClusters h rfl fun _ hb => hb
  | flow apiKey id =>
    rw [withKey, mapKey, run, run, mapFailure_seen, mapFailure_seen, map_seen, map_seen, flow_seen_withKey apiKey]
    exact rekeys_flow rfl (atMostOne_flow apiKey id)
  | clusters bucket =>
    rw [withKey, mapKey, run, run, mapFailure_seen, mapFailure_seen, map_seen, map_seen, clusters_seen_withKey h]
    exact rekeys_clusters rfl rfl (atMostOne_clusters bucket)
  | flowUnchecked apiKey id =>
    rw [withKey, mapKey, run, run, mapFailure_seen, mapFailure_seen, map_seen, map_seen,
      lookup_flow_seen_withKey apiKey]
    exact rekeys_flow rfl (atMostOne_lookup_flow apiKey id)
  | clustersUnchecked bucket =>
    rw [withKey, mapKey, run, run, mapFailure_seen, mapFailure_seen, map_seen, map_seen,
      lookup_clusters_seen_withKey]
    exact rekeys_clusters rfl rfl (atMostOne_lookup_clusters bucket)

theorem sameButKeys_run (h : Text.Blank.isEmpty s.masterKey = Text.Blank.isEmpty master)
    (answer : String → Except CallFailure Response × List Event) (x : Step) (caller : String) :
    SameButKeys s answer master x caller (x.run s (.byAddress answer))
      ((x.withKey caller).run (s.withMasterKey master) (.byAddress answer)) := by
  obtain ⟨hresult, hevents, -⟩ := follows_withKey h answer x caller fun _ _ => trivial
  exact ⟨hresult.symm, hevents.symm, rekeys_run h x caller⟩

end Step

/-- No result and no event tells a key: every call under other keys, over every directory in memory that answers by
the address alone, is the same but for the keys of its requests, and so is every session. -/
theorem sessions_blind_to_keys (s : Settings) (master : String)
    (h : Text.Blank.isEmpty s.masterKey = Text.Blank.isEmpty master) :
    (∀ (answer : String → Except CallFailure Response × List Event) (x : Step) (caller : String),
      SameButKeys s answer master x caller (x.run s (.byAddress answer))
        ((x.withKey caller).run (s.withMasterKey master) (.byAddress answer))) ∧
    ∀ (d : Directory) (entries : List (SessionEntry × String)),
      EachSameButKeys s master d entries (runSession s d (entries.map fun e => e.1))
        (runSession (s.withMasterKey master) d (entries.map fun e => e.1.withKey e.2)) := by
  refine ⟨Step.sameButKeys_run h, ?_⟩
  intro d entries
  induction entries generalizing d with
  | nil => exact .done d
  | cons e entries ih =>
    obtain ⟨entry, caller⟩ := e
    cases entry with
    | step x => exact .step (Step.sameButKeys_run h d.answer x caller) (ih d)
    | publish url page => exact .publish (ih (d.publish url page))

/-- A flow in a bucket that does not list a cluster yet. -/
def emptyBucket : Directory where
  routes := [
    ("https://flows/flows/f",
      .answer 200 (some (Text.Utf8.encode "\x7b\"team\":\x7b\"bucket_uuid\":\"b\"\x7d\x7d")) none),
    ("https://clusters/api/bucket/b/clusters", .answer 200 (some (Text.Utf8.encode "[]")) none)]

def masterSettings : Settings := .of "flows" "clusters" "master"

/-- The cluster is asked for before and after it is listed, by one caller and in another run by two others. -/
def rekeyedEntries : List (SessionEntry × String) :=
  [(.step (.resolveStrict "key" "f" "c"), "first"),
    (.publish "https://clusters/api/bucket/b/clusters"
      (.answer 200 (some (Text.Utf8.encode "[\x7b\"identifier\":\"c\"\x7d]")) none), "first"),
    (.step (.resolveStrict "key" "f" "c"), "second")]

theorem sessions_blind_to_keys_listed :
    Text.Blank.isEmpty masterSettings.masterKey = Text.Blank.isEmpty "other" ∧
    ((runSession (masterSettings.withMasterKey "other") emptyBucket (rekeyedEntries.map fun e => e.1.withKey e.2)).map
        fun a => a.map fun a => a.seen.map Request.apiKey) =
      [some ["first", "other"], none, some ["second", "other"]] ∧
    EachSameButKeys masterSettings "other" emptyBucket rekeyedEntries
      (runSession masterSettings emptyBucket (rekeyedEntries.map fun e => e.1))
      (runSession (masterSettings.withMasterKey "other") emptyBucket
        (rekeyedEntries.map fun e => e.1.withKey e.2)) := by
  have hblank : Text.Blank.isEmpty masterSettings.masterKey = Text.Blank.isEmpty "other" := by decide
  refine ⟨hblank, by decide +kernel, ?_⟩
  exact (sessions_blind_to_keys masterSettings "other" hblank).2 emptyBucket rekeyedEntries

end FlowCluster
