import FlowCluster.Proofs.Http.Client
import FlowCluster.Proofs.Settings.Segment

/-! # Calls over a network and in memory

Where both directories are at an address that a network connects to one server, calls over the network go as they go
over a directory in memory that holds the replies of the server. Every id that a segment can carry reaches the server
as it is written in the address: no part of it is taken for dots, cut off or escaped once more. -/

namespace FlowCluster.Http

open Attempt Url

variable {s : Settings} {c : Client} {n : Network} {addr : String} {server : Server}

theorem addressOf_flowUrl (hscheme : s.scheme = "http") (hhost : s.flowHost = addr) {id url : String}
    (h : s.flowUrl id = .ok url) : ∃ seg, Kept seg ∧ url = addressOf addr ["flows".toList, seg] := by
  obtain ⟨hfit, rfl⟩ := Settings.flowUrl_eq_ok_iff.mp h
  refine ⟨_, Settings.kept_encodedId hfit, String.toList_inj.mp ?_⟩
  simp [addressOf, pathChars, Settings.flowBase, hscheme, hhost]

theorem addressOf_bucketUrl (hscheme : s.scheme = "http") (hhost : s.clusterHost = addr) {bucket url : String}
    (h : s.bucketUrl bucket = .ok url) :
    ∃ seg, Kept seg ∧ url = addressOf addr ["api".toList, "bucket".toList, seg, "clusters".toList] := by
  obtain ⟨hfit, rfl⟩ := Settings.bucketUrl_eq_ok_iff.mp h
  refine ⟨_, Settings.kept_encodedId hfit, String.toList_inj.mp ?_⟩
  simp [addressOf, pathChars, Settings.bucketBase, hscheme, hhost]

/-- The words of an address stay as they are. -/
private theorem kept_word : ∀ w ∈ ["flows", "api", "bucket", "clusters"], Kept w.toList := by
  have hwords : ∀ w ∈ ["flows", "api", "bucket", "clusters"],
      (w.toList.all fun c => staysInPath c && c != '/' && c != '\\') = true ∧
        dots? w.toList ≠ some 1 ∧ dots? w.toList ≠ some 2 := by decide
  intro w hw
  obtain ⟨hchars, hone, htwo⟩ := hwords w hw
  have hstays : ∀ c ∈ w.toList, staysInPath c = true ∧ c ≠ '/' ∧ c ≠ '\\' := by
    simpa [List.all_eq_true, and_assoc] using hchars
  exact ⟨hstays, hone, htwo⟩

theorem lookup_flow_follows (hscheme : s.scheme = "http") (hhost : s.flowHost = addr) (hn : Serves n addr server)
    (hreplies : ∀ r ∈ server.replies, r.2.IsWhole) {apiKey : String} (hkey : isSendable apiKey = true) (id : String) :
    Follows (fun q => Fits q.url) (SameRequest addr c.userAgent) (Lookup.flow s (c.transport n) apiKey id)
      (Lookup.flow s (server.directory addr).transport apiKey id) := by
  apply Lookup.follows_flow rfl
  intro url hurl
  obtain ⟨seg, hseg, rfl⟩ := addressOf_flowUrl hscheme hhost hurl
  apply fetch_follows hn hreplies hkey (kept_word "flows" (by simp))
  simpa using hseg

theorem lookup_clusters_follows (hscheme : s.scheme = "http") (hhost : s.clusterHost = addr)
    (hn : Serves n addr server) (hreplies : ∀ r ∈ server.replies, r.2.IsWhole)
    (hkey : isSendable s.masterKey = true) (bucket : String) :
    Follows (fun q => Fits q.url) (SameRequest addr c.userAgent) (Lookup.clusters s (c.transport n) bucket)
      (Lookup.clusters s (server.directory addr).transport bucket) := by
  apply Lookup.follows_clusters rfl
  intro url hurl
  obtain ⟨seg, hseg, rfl⟩ := addressOf_bucketUrl hscheme hhost hurl
  apply fetch_follows hn hreplies hkey (kept_word "api" (by simp))
  have hbucket := kept_word "bucket" (by simp)
  have hclusters := kept_word "clusters" (by simp)
  simpa using ⟨hbucket, hseg, hclusters⟩

/-- An attempt over a network is as one in memory: it ends alike, reports alike, and the requests correspond. -/
structure Refines (addr : String) (userAgent : Option String) (x : Attempt Sighting StepFailure Answer)
    (y : Attempt Request StepFailure Answer) : Prop where
  result : x.result = y.result
  events : x.events = y.events
  requests : List.Forall₂ (SameRequest addr userAgent) x.seen y.seen

/-- One call, if its addresses are not too long. -/
theorem run_refines (hscheme : s.scheme = "http") (hflow : s.flowHost = addr) (hclusters : s.clusterHost = addr)
    (hn : Serves n addr server) (hreplies : ∀ r ∈ server.replies, r.2.IsWhole)
    (hmaster : isSendable s.masterKey = true) {x : Step} (hkey : ∀ p ∈ x.flowCall?, isSendable p.1 = true)
    (hfits : ∀ q ∈ (x.run s (server.directory addr).transport).seen, Fits q.url) :
    Refines addr c.userAgent (x.run s (c.transport n)) (x.run s (server.directory addr).transport) := by
  have hfollows : Follows (fun q => Fits q.url) (SameRequest addr c.userAgent) (x.run s (c.transport n))
      (x.run s (server.directory addr).transport) := by
    apply Step.follows_run rfl rfl
    · intro apiKey id hx
      exact lookup_flow_follows hscheme hflow hn hreplies (hkey (apiKey, id) hx) id
    · intro bucket
      exact lookup_clusters_follows hscheme hclusters hn hreplies hmaster bucket
  obtain ⟨hresult, hevents, hseen⟩ := hfollows hfits
  exact ⟨hresult, hevents, hseen⟩

/-- Calls without changes of pages are answered one by one. -/
theorem runSession_steps (s : Settings) (d : Directory) (steps : List Step) :
    runSession s d (steps.map .step) = steps.map fun x => some (x.run s d.transport) := by
  induction steps with
  | nil => rfl
  | cons x steps ih => rw [List.map_cons, runSession, ih, List.map_cons]

/-- Every session over a network is as the one in memory, call by call. -/
theorem session_refines (c : Client) (n : Network) (server : Server) (addr : String) (s : Settings)
    (steps : List Step) (hscheme : s.scheme = "http") (hflow : s.flowHost = addr) (hclusters : s.clusterHost = addr)
    (hn : Serves n addr server) (hreplies : ∀ r ∈ server.replies, r.2.IsWhole)
    (hmaster : isSendable s.masterKey = true) (hkeys : ∀ x ∈ steps, ∀ p ∈ x.flowCall?, isSendable p.1 = true)
    (hfits : ∀ x ∈ steps, ∀ q ∈ (x.run s (server.directory addr).transport).seen, Fits q.url) :
    ∃ attempts, runSession s (server.directory addr) (steps.map .step) = attempts.map some ∧
      List.Forall₂ (Refines addr c.userAgent) (steps.map fun x => x.run s (c.transport n)) attempts := by
  refine ⟨steps.map fun x => x.run s (server.directory addr).transport, ?_, ?_⟩
  · rw [runSession_steps, List.map_map]
    rfl
  · rw [List.forall₂_map_left_iff, List.forall₂_map_right_iff, List.forall₂_same]
    intro x hx
    exact run_refines hscheme hflow hclusters hn hreplies hmaster (hkeys x hx) (hfits x hx)

/-- A server whose only flow has a name like dots, and whose only bucket one like dots that are escaped. -/
def dottedServer : Server where
  replies := [
    ("/flows/..x", ⟨200, Text.Utf8.encode "\x7b\"team\":\x7b\"bucket_uuid\":\"%2e%2e\"\x7d\x7d", none, by decide⟩),
    ("/api/bucket/%252e%252e/clusters", ⟨200, Text.Utf8.encode "[\x7b\"identifier\":\"c\"\x7d]", none, by decide⟩)]

def dottedSteps : List Step :=
  [.resolve "key" "..x" "c", .resolveStrict "key" "..x" "d", .flowUnchecked "key" "...", .clusters "%2e%2e"]

/-- Both directories at a port of this machine. -/
def loopback : Settings := { Settings.of "127.0.0.1:8080" "127.0.0.1:8080" "master" with scheme := "http" }

theorem serves_loopback (server : Server) : Serves (fun _ => .connected server) "127.0.0.1:8080" server := by
  refine ⟨?_, .ipv4 2130706433, some 8080, by decide +kernel, ?_, ?_⟩
  · simpa using (by decide : "127.0.0.1:8080".toList.any isMark = false)
  · intro cs h
    cases h
  · intro u _ _ _
    rfl

theorem session_refines_dotted :
    (dottedSteps.map fun x => ((x.run loopback (dottedServer.directory "127.0.0.1:8080").transport).seen.map
        Request.url)) =
      [["http://127.0.0.1:8080/flows/..x", "http://127.0.0.1:8080/api/bucket/%252e%252e/clusters"],
        ["http://127.0.0.1:8080/flows/..x", "http://127.0.0.1:8080/api/bucket/%252e%252e/clusters"],
        ["http://127.0.0.1:8080/flows/..."], ["http://127.0.0.1:8080/api/bucket/%252e%252e/clusters"]] ∧
    ∃ attempts, runSession loopback (dottedServer.directory "127.0.0.1:8080") (dottedSteps.map .step) =
        attempts.map some ∧
      List.Forall₂ (Refines "127.0.0.1:8080" Client.named.userAgent)
        (dottedSteps.map fun x => x.run loopback (Client.named.transport fun _ => .connected dottedServer))
        attempts := by
  have hreplies : ∀ r ∈ dottedServer.replies, r.2.IsWhole := by
    have hstatus : ∀ r ∈ dottedServer.replies,
        r.2.broken = none ∧ (200 ≤ r.2.status ∧ r.2.status ≤ 599) ∧ r.2.status ≠ 204 ∧ r.2.status ≠ 304 := by decide
    intro r hr
    obtain ⟨hsent, hfinal, hbodied⟩ := hstatus r hr
    exact ⟨hsent, hfinal, hbodied⟩
  refine ⟨by decide +kernel, ?_⟩
  exact session_refines Client.named (fun _ => .connected dottedServer) dottedServer "127.0.0.1:8080" loopback
    dottedSteps rfl rfl rfl (serves_loopback dottedServer) hreplies (by decide) (by decide) (by decide +kernel)

end FlowCluster.Http
