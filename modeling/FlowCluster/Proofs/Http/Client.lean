import FlowCluster.Proofs.Following
import FlowCluster.Proofs.Http.Failures

/-! # A client and a directory in memory

Over a network that connects an address to a server, a client is answered as it would be by a directory in memory that
holds the replies of the server under that address. What the server sees is what the directory sees, without the
address. -/

namespace FlowCluster.Http

open Attempt Url

/-- A reply that is sent whole and has a body, by what its status says. -/
structure Reply.IsWhole (r : Reply) : Prop where
  sent : r.broken = none
  final : 200 ≤ r.status ∧ r.status ≤ 599
  bodied : r.status ≠ 204 ∧ r.status ≠ 304

/-- An address of the web, a host and perhaps a port, that a network connects to a server whatever the path is. -/
structure Serves (n : Network) (addr : String) (server : Server) : Prop where
  unmarked : ∀ c ∈ addr.toList, isMark c = false
  connected : ∃ host port, authority? "http".toList true addr.toList = some ⟨host, port, []⟩ ∧
    (∀ cs, host = .name cs → cs.any isMisplaced = false) ∧
    ∀ u : Url, u.scheme = "http".toList → u.host = some host → u.port = port → n u = .connected server

/-- An address that is not too long for a request. -/
def Fits (url : String) : Prop := ∀ u ∈ Url.read? url, u.chars.length ≤ longest

instance (url : String) : Decidable (Fits url) := inferInstanceAs (Decidable (∀ u ∈ Url.read? url, _))

/-- The replies of a server as pages under an address. -/
def Server.directory (server : Server) (addr : String) : Directory where
  routes := server.replies.map fun r => ("http://" ++ addr ++ r.1, .answer r.2.status (some r.2.body) none)

/-- A request as a server sees it and as a directory in memory does. -/
def SameRequest (addr : String) (userAgent : Option String) (x : Sighting) (q : Request) : Prop :=
  ∃ target, q.url = "http://" ++ addr ++ target ∧ x = ⟨"GET " ++ target ++ " HTTP/1.1", q.apiKey, userAgent⟩

theorem Reply.IsWhole.received_eq {r : Reply} (h : r.IsWhole) : r.received = .ok r.body := by
  have hother : r.status ≠ 101 := by
    intro hs
    have hlow := h.final.1
    rw [hs] at hlow
    exact absurd hlow (by decide)
  have hbody : r.isBodiless = false := by simp [Reply.isBodiless, hother, h.bodied]
  rw [Reply.received, hbody, h.sent]
  rfl

theorem Server.isWhole_reply {server : Server} (h : ∀ r ∈ server.replies, r.2.IsWhole) (target : String) :
    (server.reply target).IsWhole := by
  rw [Server.reply]
  cases hr : server.replies.find? fun r => r.1 == target with
  | none => exact ⟨rfl, by decide, by decide⟩
  | some r => exact h r (List.mem_of_find?_eq_some hr)

theorem Server.directory_answer (server : Server) (addr target : String) :
    (server.directory addr).answer ("http://" ++ addr ++ target) =
      (.ok ⟨"http://" ++ addr ++ target, (server.reply target).status, some (server.reply target).body⟩, []) := by
  have hsame : ((fun r : String × Page => r.1 == "http://" ++ addr ++ target) ∘
      fun r : String × Reply => ("http://" ++ addr ++ r.1, Page.answer r.2.status (some r.2.body) none)) =
        fun r => r.1 == target := by
    funext r
    rw [Function.comp_apply, Bool.eq_iff_iff, beq_iff_eq, beq_iff_eq]
    exact String.append_right_inj _
  rw [Directory.answer, Server.directory, List.find?_map, hsame, Server.reply]
  cases server.replies.find? fun r => r.1 == target with
  | none => rfl
  | some r => rfl

theorem isRequestable_of_placed {u : Url} (hlong : u.chars.length ≤ longest)
    (hplaced : ∀ cs, u.host = some (.name cs) → cs.any isMisplaced = false) : isRequestable u = true := by
  rw [isRequestable, Bool.and_eq_true, decide_eq_true_eq]
  refine ⟨hlong, ?_⟩
  split
  · next cs h =>
    rw [hplaced cs h]
    rfl
  · rfl

variable {c : Client} {n : Network} {server : Server}

namespace Client

theorem transport_fetch (n : Network) (q : Request) : (c.transport n).fetch q = c.fetch n q := rfl

/-- A server that is reached answers. -/
theorem fetch_of_connected {q : Request} {u : Url} (hu : destination q = .ok u) (hn : n u = .connected server) :
    c.fetch n q = c.exchange server u q := by
  rw [fetch, hu]
  dsimp only
  rw [hn]

theorem exchange_result {u : Url} {q : Request} {body : Bytes} (h : (server.reply u.target).received = .ok body) :
    (c.exchange server u q).result = .ok ⟨q.url, (server.reply u.target).status, some body⟩ := by
  rw [exchange]
  simp only [h]

@[simp] theorem exchange_seen (server : Server) (u : Url) (q : Request) :
    (c.exchange server u q).seen = [c.sighting u q.apiKey] := rfl

end Client

/-- The address of a path under an address. -/
def addressOf (addr : String) (ss : List (List Char)) : String := "http://" ++ addr ++ String.ofList (pathChars ss)

variable {addr : String} {key : String} {seg : List Char} {ss : List (List Char)}

/-- A request with a key that can be sent goes to the server that its address is connected to. -/
private theorem exists_destination (hn : Serves n addr server) (hkey : isSendable key = true) (hseg : Kept seg)
    (hss : ∀ seg ∈ ss, Kept seg) (hfits : Fits (addressOf addr (seg :: ss))) :
    ∃ u, destination ⟨addressOf addr (seg :: ss), key⟩ = .ok u ∧ n u = .connected server ∧
      u.target = String.ofList (pathChars (seg :: ss)) := by
  obtain ⟨host, port, hread, hplaced, hconnected⟩ := hn.connected
  have htext : addressOf addr (seg :: ss) =
      String.ofList ("http://".toList ++ (addr.toList ++ pathChars (seg :: ss))) := by
    apply String.toList_inj.mp
    simp [addressOf]
  have hurl := read?_http hn.unmarked hread hseg hss
  rw [← htext] at hurl
  refine ⟨_, destination_eq_ok_iff.mpr ⟨hurl, rfl, ?_, hkey⟩, hconnected _ rfl rfl rfl, ?_⟩
  · apply isRequestable_of_placed (hfits _ hurl)
    intro cs h
    exact hplaced cs (Option.some.inj h)
  · exact congrArg String.ofList (List.append_nil _)

/-- The client is answered as the directory is, and the server sees what the directory sees. -/
theorem fetch_follows (hn : Serves n addr server) (hreplies : ∀ r ∈ server.replies, r.2.IsWhole)
    (hkey : isSendable key = true) (hseg : Kept seg) (hss : ∀ seg ∈ ss, Kept seg) :
    Follows (fun q => Fits q.url) (SameRequest addr c.userAgent)
      ((c.transport n).fetch ⟨addressOf addr (seg :: ss), key⟩)
      ((server.directory addr).transport.fetch ⟨addressOf addr (seg :: ss), key⟩) := by
  unfold Follows
  rw [Directory.fetch_seen]
  intro hfits
  have hfit : Fits (addressOf addr (seg :: ss)) := hfits ⟨addressOf addr (seg :: ss), key⟩ (List.mem_singleton_self _)
  obtain ⟨u, hu, hnu, htarget⟩ := exists_destination hn hkey hseg hss hfit
  have haddress : addressOf addr (seg :: ss) = "http://" ++ addr ++ u.target := by
    rw [htarget]
    rfl
  have hanswer := Server.directory_answer server addr u.target
  rw [← haddress] at hanswer
  have hreceived := (Server.isWhole_reply hreplies u.target).received_eq
  rw [Directory.fetch_result, Directory.fetch_events, hanswer, Client.transport_fetch,
    Client.fetch_of_connected hu hnu]
  refine ⟨Client.exchange_result hreceived, rfl, ?_⟩
  rw [Client.exchange_seen]
  exact .cons ⟨u.target, haddress, rfl⟩ .nil

end FlowCluster.Http
