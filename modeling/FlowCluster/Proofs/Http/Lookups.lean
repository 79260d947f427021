import FlowCluster.Proofs.Blame
import FlowCluster.Proofs.Http.Failures

/-! # Lookups over a network

Over a client, a lookup that fails names the address that it asked for as it was written, or the host alone for an id that
is no segment. What the servers see, and which requests the log says were not sent, is told by the requests of a call one
after another. -/

namespace FlowCluster.Http.Client

/-- What the failure of a lookup names. It is one of making a request where the request cannot be made, and then no server
has seen it. -/
inductive Named (c : Client) (n : Network) (host id key : String) (address : Except CallFailure String)
    (e : CallFailure) : Prop
  | host (h : Settings.Unfit id) (he : e = Settings.unfitFailure host id)
  | address {url : String} (haddress : address = .ok url) (he : e.url = url)
      (hmade : (∃ message, e = .request url message) ↔ Unmakeable ⟨url, key⟩)
      (hseen : Unmakeable ⟨url, key⟩ → (c.fetch n ⟨url, key⟩).seen = [])

/-- The lookup that a call fails by, and what its failure names. -/
inductive Blamed (c : Client) (n : Network) (s : Settings) (x : Step) : StepFailure → CallFailure → Prop
  | flow {apiKey id : String} {e : CallFailure} (hx : x.flowCall? = some (apiKey, id))
      (h : c.Named n s.flowHost id apiKey (s.flowUrl id) e) : Blamed c n s x (x.flowFailure e) e
  | clusters {bucket : String} {e : CallFailure} (hx : x.Names s (c.transport n).answers bucket)
      (h : c.Named n s.clusterHost bucket s.masterKey (s.bucketUrl bucket) e) :
      Blamed c n s x (x.clustersFailure e) e

/-- A call over a network: the requests it makes, what is seen and reported of them, and how it fails. -/
structure Traced (c : Client) (n : Network) (s : Settings) (x : Step) (a : Attempt Sighting StepFailure Answer) :
    Prop where
  asked : x.Confined s (c.transport n).answers (x.requests s (c.transport n))
  seen : a.seen = (x.requests s (c.transport n)).flatMap fun r => (c.fetch n r).seen
  unsent : (a.events.filter fun e => e.message = "Upstream request failed") =
    (x.requests s (c.transport n)).flatMap fun r => (c.fetch n r).events
  ended : ∀ r ∈ x.requests s (c.transport n), ∀ e, (c.fetch n r).result = .error e →
    ∃ f, a.result = .error f ∧ f.call? = some e
  blamed : ∀ f e, a.result = .error f → f.call? = some e → c.Blamed n s x f e

variable {c : Client} {n : Network} {s : Settings} {x : Step} {α : Type} {decoder : Json.Decoder α} {e : CallFailure}

/-- What is wrong with the answer to a request names the address of the request. -/
theorem named_of_fitRecord {host id key url : String} {address : Except CallFailure String} (haddress : address = .ok url)
    (h : Lookup.fitRecord decoder url (c.fetch n ⟨url, key⟩).result = .error e) :
    c.Named n host id key address e := by
  have hfetch := classified_fetch c n ⟨url, key⟩
  refine .address haddress (Lookup.url_of_fitRecord h hfetch.failure_url hfetch.response_url) ?_ ?_
  · rw [← hfetch.refused]
    refine exists_congr fun message => ⟨?_, fun ha => ?_⟩
    · rintro rfl
      exact Lookup.fitRecord_eq_request_iff.mp h
    · rw [Lookup.fitRecord_eq_request_iff.mpr ha] at h
      exact (Except.error.inj h).symm
  · intro hunmakeable
    obtain ⟨message, ha⟩ := hfetch.refused.mpr hunmakeable
    exact hfetch.unseen url message ha

theorem blamed_of_failsBy {f : StepFailure} (h : x.FailsBy s (c.transport n) f e) : c.Blamed n s x f e := by
  cases h with
  | flow hx h =>
    refine .flow hx ?_
    rcases Lookup.flow_eq_error h with ⟨hid, he⟩ | ⟨url, hurl, hfit⟩
    · exact .host hid he
    · exact named_of_fitRecord hurl hfit
  | clusters hx h =>
    refine .clusters hx ?_
    rcases Lookup.clusters_eq_error h with ⟨hid, he⟩ | ⟨url, hurl, hfit⟩
    · exact .host hid he
    · exact named_of_fitRecord hurl hfit

/-- A client reports nothing but that a request was not sent. -/
theorem filter_unsent (r : Request) : (c.fetch n r).events.filter (·.isUnsent) = (c.fetch n r).events := by
  have hfetch := classified_fetch c n r
  by_cases hfails : SendingFails n r
  · obtain ⟨e, error, hevents, -, hmessage, -⟩ := hfetch.reported hfails
    rw [hevents, List.filter_singleton, Event.isUnsent, decide_eq_true hmessage]
    rfl
  · rw [hfetch.unreported hfails]
    rfl

theorem traced_run (c : Client) (n : Network) (s : Settings) (x : Step) :
    c.Traced n s x (x.run s (c.transport n)) where
  asked := Step.confined_run (fun r => ((c.transport n).answers r, [])) x
  seen := (x.sends_run).seen
  unsent := (x.sends_run).unsent.trans (List.flatMap_congr fun r _ => filter_unsent r)
  ended _ hr _ he := Step.ended_run hr he
  blamed _ _ h he := blamed_of_failsBy (Step.failsBy_run h he)

/-- What comes of a request is told by whether it can be made and what it meets on its way, and a call that fails for a
request names its address. A request is not made if its address cannot be read, has a scheme that is not spoken or is none
that a request can have, or if its key cannot be sent; such a request no server sees. Every other request is answered, seen
with its key as it is, or lost on its way. The log says of each request whose sending failed that it did, and it says so of
no other, whatever becomes of the answer. -/
theorem failures_classified (c : Client) (n : Network) :
    (∀ r, c.Classified n r (c.fetch n r)) ∧ ∀ s x, c.Traced n s x (x.run s (c.transport n)) :=
  ⟨classified_fetch c n, traced_run c n⟩

/-- A readable address of a scheme that is spoken, which is not called all the same. -/
structure Barred (url : String) : Prop where
  spoken : ∃ u, Url.read? url = some u ∧ isSpoken u.scheme = true
  unmade : (named.fetch .down ⟨url, "k"⟩).result = .error (.request url ("builder error for url (" ++ url ++ ")"))

/-- An address whose host has a mark in its name. -/
def markedUrl (mark : Char) : Url :=
  ⟨"http".toList, some (.name ("in".toList ++ mark :: "valid".toList)), none, .segments [[]], none, none⟩

/-- An address with a path of as many letters. -/
def lettered (count : Nat) : String :=
  String.ofList ("http://".toList ++ ("invalid".toList ++ Url.pathChars [List.replicate count 'a']))

def letteredUrl (count : Nat) : Url :=
  ⟨"http".toList, some (.name "invalid".toList), none, .segments [List.replicate count 'a'], none, none⟩

theorem read?_lettered (count : Nat) : Url.read? (lettered count) = some (letteredUrl count) := by
  have hmarks : ∀ c ∈ "invalid".toList, Url.isMark c = false := by
    simpa using (by decide : "invalid".toList.any Url.isMark = false)
  have hread : Url.authority? "http".toList true "invalid".toList = some ⟨.name "invalid".toList, none, []⟩ := by
    decide +kernel
  have hstays : Url.staysInPath 'a' = true ∧ 'a' ≠ '/' ∧ 'a' ≠ '\\' := by decide
  have hdots (k : Nat) : Url.dots? (List.replicate count 'a') ≠ some (k + 1) := by
    cases count <;> simp [Url.dots?, List.replicate_succ]
  have hkept : Url.Kept (List.replicate count 'a') :=
    ⟨fun c hc => List.eq_of_mem_replicate hc ▸ hstays, hdots 0, hdots 1⟩
  exact Url.read?_http hmarks hread hkept (by simp)

theorem text_lettered (count : Nat) : (letteredUrl count).text = lettered count :=
  congrArg String.ofList (Url.chars_http _ _)

/-- A request can have an address of so many characters and no more. -/
theorem isRequestable_lettered (count : Nat) : isRequestable (letteredUrl count) = decide (count ≤ 65519) := by
  have hname : ("invalid".toList.any isMisplaced) = false := by decide
  have hlength : (letteredUrl count).chars.length = count + 15 := by
    rw [letteredUrl, Url.chars_http]
    simp [Url.Host.chars, Url.pathChars]
  rw [isRequestable, hlength, longest]
  simp only [letteredUrl, hname, Bool.not_false, Bool.and_true, decide_eq_decide]
  omega

theorem barred_of_misfit {url : String} {u : Url} (hread : Url.read? url = some u) (hspoken : isSpoken u.scheme = true)
    (hmisfit : isRequestable u = false) (htext : u.text = url) : Barred url where
  spoken := ⟨u, hread, hspoken⟩
  unmade := by
    have hkey : isSendable "k" = true := by decide
    have hfetch := fetch_of_misfit (c := named) (n := .down) (r := ⟨url, "k"⟩) hread hspoken hmisfit hkey
    rw [hfetch, htext]
    rfl

theorem barred_lettered {count : Nat} (h : 65519 < count) : Barred (lettered count) := by
  have hspoken : isSpoken "http".toList = true := by decide
  refine barred_of_misfit (read?_lettered count) hspoken ?_ (text_lettered count)
  rw [isRequestable_lettered, decide_eq_false_iff_not]
  omega

/-- Hosts whose names hold a mark that has no place in a request, and an address with one character too many: they are
not called, though each can be read, its scheme is spoken and the key can be sent. -/
theorem misplaced_mark_unmade :
    isSendable "k" = true ∧ Barred "http://in\x60valid/" ∧ Barred "http://in\"valid/" ∧ Barred "http://in\x7bvalid/" ∧
      Barred "http://in\x7dvalid/" ∧ Barred (lettered 65520) := by
  refine ⟨by decide, ?_, ?_, ?_, ?_, barred_lettered (by decide)⟩
  · exact barred_of_misfit (u := markedUrl '\x60') (by decide +kernel) rfl rfl rfl
  · exact barred_of_misfit (u := markedUrl '"') (by decide +kernel) rfl rfl rfl
  · exact barred_of_misfit (u := markedUrl '\x7b') (by decide +kernel) rfl rfl rfl
  · exact barred_of_misfit (u := markedUrl '\x7d') (by decide +kernel) rfl rfl rfl

end FlowCluster.Http.Client
