import FlowCluster.Http.Client
import FlowCluster.Proofs.Url.Read

/-! # How a request comes to its end

A request is not made, or it is made and no answer is begun to it, or one is begun, which may break off. Each of these is
told by the address and the key of the request and by what the network has at the address. Whatever comes of it bears the
address as it was given. -/

namespace FlowCluster.Http

open Url

/-- What keeps a request from being made. -/
inductive Unmakeable (r : Request) : Prop
  | unreadable (h : Url.read? r.url = none)
  | unspoken {u : Url} (hu : Url.read? r.url = some u) (h : isSpoken u.scheme = false)
  | misfit {u : Url} (hu : Url.read? r.url = some u) (h : isRequestable u = false)
  | unsendable (h : isSendable r.apiKey = false)

/-- Sending a request fails: it cannot be made, or it finds no server, or the server is lost before it begins an answer. -/
inductive SendingFails (n : Network) (r : Request) : Prop
  | unmade (h : Unmakeable r)
  | closed {u : Url} {fault : NetworkFault} (hu : Url.read? r.url = some u) (hn : n u = .closed fault)
  | dropped {u : Url} {sighted : Bool} {fault : NetworkFault} (hu : Url.read? r.url = some u)
      (hn : n u = .dropped sighted fault)

/-- A server begins an answer to a request that can be made. -/
structure Begins (n : Network) (r : Request) (u : Url) (reply : Reply) : Prop where
  makeable : ¬Unmakeable r
  read : Url.read? r.url = some u
  reached : ∃ server, n u = .connected server ∧ server.reply u.target = reply

theorem isSpecial_of_isSpoken {scheme : List Char} (h : isSpoken scheme = true) :
    isSpecial scheme = true ∧ scheme ≠ "file".toList := by
  simp only [isSpoken, Bool.or_eq_true, beq_iff_eq] at h
  rcases h with rfl | rfl <;> decide

variable {c : Client} {n : Network} {r : Request} {u : Url}

theorem destination_eq_ok_iff :
    destination r = .ok u ↔ Url.read? r.url = some u ∧ isSpoken u.scheme = true ∧ isRequestable u = true ∧
      isSendable r.apiKey = true := by
  constructor
  · intro h
    unfold destination at h
    split at h
    · cases h
    · next v hv =>
      split_ifs at h with hhost hkey hfit
      cases h
      simp only [Bool.not_eq_true', Bool.not_eq_false, Bool.and_eq_true] at hkey hfit
      exact ⟨hv, hfit.1, hfit.2, hkey⟩
  · rintro ⟨hread, hspoken, hrequestable, hkey⟩
    obtain ⟨hspecial, hfile⟩ := isSpecial_of_isSpoken hspoken
    have hhost := hasHost_of_special hread hspecial hfile
    simp only [destination, hread, hhost, hkey, hspoken, hrequestable, Bool.not_true, Bool.false_eq_true, Bool.and_self,
      ↓reduceIte]

/-- A request that can be made goes somewhere. -/
theorem exists_destination_of_makeable (h : ¬Unmakeable r) : ∃ u, destination r = .ok u := by
  cases hu : Url.read? r.url with
  | none => exact absurd (.unreadable hu) h
  | some u =>
    refine ⟨u, destination_eq_ok_iff.mpr ⟨hu, ?_, ?_, ?_⟩⟩
    · exact Bool.of_not_eq_false fun hspoken => h (.unspoken hu hspoken)
    · exact Bool.of_not_eq_false fun hrequestable => h (.misfit hu hrequestable)
    · exact Bool.of_not_eq_false fun hkey => h (.unsendable hkey)

theorem not_unmakeable_of_destination (h : destination r = .ok u) : ¬Unmakeable r := by
  obtain ⟨hread, hspoken, hrequestable, hkey⟩ := destination_eq_ok_iff.mp h
  intro hu
  cases hu with
  | unreadable hnone => cases hnone.symm.trans hread
  | unspoken hv hv' =>
    cases hv.symm.trans hread
    exact absurd hspoken (by simp [hv'])
  | misfit hv hv' =>
    cases hv.symm.trans hread
    exact absurd hrequestable (by simp [hv'])
  | unsendable hkey' => exact absurd hkey (by simp [hkey'])

/-- An answer is begun to every request that is sent, and to no other. -/
theorem sendingFails_iff : SendingFails n r ↔ ¬∃ u reply, Begins n r u reply := by
  constructor
  · rintro h ⟨u, reply, hmade, hread, server, hn, -⟩
    cases h with
    | unmade h => exact hmade h
    | closed hu hn' =>
      cases hu.symm.trans hread
      cases hn'.symm.trans hn
    | dropped hu hn' =>
      cases hu.symm.trans hread
      cases hn'.symm.trans hn
  · intro h
    by_contra hsent
    have hmade : ¬Unmakeable r := fun hunmade => hsent (.unmade hunmade)
    obtain ⟨u, hu⟩ := exists_destination_of_makeable hmade
    obtain ⟨hread, -⟩ := destination_eq_ok_iff.mp hu
    cases hn : n u with
    | closed fault => exact hsent (.closed hread hn)
    | dropped sighted fault => exact hsent (.dropped hread hn)
    | connected server => exact h ⟨u, server.reply u.target, hmade, hread, server, hn, rfl⟩

theorem Begins.not_sendingFails {reply : Reply} (h : Begins n r u reply) : ¬SendingFails n r :=
  fun hfails => sendingFails_iff.mp hfails ⟨u, reply, h⟩

theorem Begins.unique {v : Url} {reply reply' : Reply} (h : Begins n r u reply) (h' : Begins n r v reply') :
    u = v ∧ reply = reply' := by
  cases h.read.symm.trans h'.read
  obtain ⟨server, hn, rfl⟩ := h.reached
  obtain ⟨server', hn', rfl⟩ := h'.reached
  cases hn.symm.trans hn'
  exact ⟨rfl, rfl⟩

namespace Client

/-- The ways that a request goes. -/
inductive Fate (c : Client) (n : Network) (r : Request) : Attempt Sighting CallFailure Response → Prop
  | unmade (message : String) (h : Unmakeable r) : Fate c n r (notSent r.url message)
  | lost {seen : List Sighting} (fault : NetworkFault) (hmade : ¬Unmakeable r) (h : SendingFails n r)
      (hseen : seen = [] ∨ ∃ u, seen = [c.sighting u r.apiKey]) : Fate c n r (unanswered r.url seen fault)
  | cut {u : Url} {reply : Reply} {fault : NetworkFault} (h : Begins n r u reply) (hcut : reply.received = .error fault) :
      Fate c n r ⟨.error (.transport r.url (.network fault)), [c.sighting u r.apiKey], []⟩
  | answered {u : Url} {reply : Reply} {body : Bytes} (h : Begins n r u reply) (hwhole : reply.received = .ok body) :
      Fate c n r ⟨.ok ⟨r.url, reply.status, some body⟩, [c.sighting u r.apiKey], []⟩

theorem fate_fetch (c : Client) (n : Network) (r : Request) : c.Fate n r (c.fetch n r) := by
  rw [fetch]
  cases hd : destination r with
  | error x =>
    refine .unmade x.message ?_
    by_contra h
    obtain ⟨u, hu⟩ := exists_destination_of_makeable h
    cases hu.symm.trans hd
  | ok u =>
    have hmade := not_unmakeable_of_destination hd
    obtain ⟨hread, -⟩ := destination_eq_ok_iff.mp hd
    dsimp only
    cases hn : n u with
    | closed fault => exact .lost fault hmade (.closed hread hn) (.inl rfl)
    | dropped sighted fault =>
      refine .lost fault hmade (.dropped hread hn) ?_
      cases sighted with
      | false => exact .inl rfl
      | true => exact .inr ⟨u, rfl⟩
    | connected server =>
      have hbegins : Begins n r u (server.reply u.target) := ⟨hmade, hread, server, hn, rfl⟩
      dsimp only
      rw [exchange]
      cases hreply : (server.reply u.target).received with
      | error fault => exact .cut hbegins hreply
      | ok body => exact .answered hbegins hreply

/-- An address that can be read and has a scheme that is spoken, but that no request can have, keeps the request from
being made. -/
theorem fetch_of_misfit (hread : Url.read? r.url = some u) (hspoken : isSpoken u.scheme = true)
    (hmisfit : isRequestable u = false) (hkey : isSendable r.apiKey = true) :
    c.fetch n r = notSent r.url (Refusal.unsuitable u.text).message := by
  obtain ⟨hspecial, hfile⟩ := isSpecial_of_isSpoken hspoken
  have hhost := hasHost_of_special hread hspecial hfile
  have hdestination : destination r = .error (.unsuitable u.text) := by
    simp only [destination, hread, hhost, hkey, hspoken, hmisfit, Bool.not_true, Bool.false_eq_true, Bool.and_false,
      ↓reduceIte]
  rw [fetch, hdestination]

/-- What comes of a request, by whether it can be made, whether sending it fails, and what is answered. -/
structure Classified (c : Client) (n : Network) (r : Request) (a : Attempt Sighting CallFailure Response) : Prop where
  refused : (∃ message, a.result = .error (.request r.url message)) ↔ Unmakeable r
  unseen : ∀ url message, a.result = .error (.request url message) → a.seen = []
  made : ¬Unmakeable r → (∃ cause, a.result = .error (.transport r.url cause)) ∨
    ∃ status body target, a.result = .ok ⟨r.url, status, some body⟩ ∧
      a.seen = [⟨"GET " ++ target ++ " HTTP/1.1", r.apiKey, c.userAgent⟩]
  seen : a.seen = [] ∨ ∃ target, a.seen = [⟨"GET " ++ target ++ " HTTP/1.1", r.apiKey, c.userAgent⟩]
  failure_url : ∀ e, a.result = .error e → e.url = r.url
  response_url : ∀ answer, a.result = .ok answer → answer.url = r.url
  reported : SendingFails n r → ∃ e error, a.events = [e] ∧ e.level = .debug ∧ e.message = "Upstream request failed" ∧
    e.fields = [("url", .text r.url), ("error", .text error)] ∧
    (a.result = .error (.request r.url error) ∨ ∃ causes, a.result = .error (.transport r.url (.network ⟨error, causes⟩)))
  unreported : ¬SendingFails n r → a.events = []
  answered : ∀ u reply body, Begins n r u reply → reply.received = .ok body →
    a.result = .ok ⟨r.url, reply.status, some body⟩
  cut : ∀ u reply fault, Begins n r u reply → reply.received = .error fault →
    a.result = .error (.transport r.url (.network fault)) ∧ a.events = []

private theorem url_of_error {e e' : CallFailure} {α : Type} (h : (.error e : Except CallFailure α) = .error e')
    (he : e.url = r.url) : e'.url = r.url := by
  cases h
  exact he

theorem Fate.classified {a : Attempt Sighting CallFailure Response} (h : c.Fate n r a) : c.Classified n r a := by
  cases h with
  | unmade message h => exact {
      refused := iff_of_true ⟨message, rfl⟩ h
      unseen := fun _ _ _ => rfl
      made := fun hmade => absurd h hmade
      seen := .inl rfl
      failure_url := fun _ he => url_of_error he rfl
      response_url := nofun
      reported := fun _ => ⟨_, message, rfl, rfl, rfl, rfl, .inl rfl⟩
      unreported := fun hsent => absurd (.unmade h) hsent
      answered := fun _ _ _ hbegins => absurd h hbegins.makeable
      cut := fun _ _ _ hbegins => absurd h hbegins.makeable }
  | lost fault hmade h hseen => exact {
      refused := iff_of_false nofun hmade
      unseen := nofun
      made := fun _ => .inl ⟨_, rfl⟩
      seen := hseen.imp_right fun ⟨u, hu⟩ => ⟨u.target, hu⟩
      failure_url := fun _ he => url_of_error he rfl
      response_url := nofun
      reported := fun _ => ⟨_, fault.message, rfl, rfl, rfl, rfl, .inr ⟨fault.causes, rfl⟩⟩
      unreported := fun hsent => absurd h hsent
      answered := fun _ _ _ hbegins => absurd h hbegins.not_sendingFails
      cut := fun _ _ _ hbegins => absurd h hbegins.not_sendingFails }
  | @cut u reply fault h hcut => exact {
      refused := iff_of_false nofun h.makeable
      unseen := nofun
      made := fun _ => .inl ⟨_, rfl⟩
      seen := .inr ⟨u.target, rfl⟩
      failure_url := fun _ he => url_of_error he rfl
      response_url := nofun
      reported := fun hfails => absurd hfails h.not_sendingFails
      unreported := fun _ => rfl
      answered := fun _ _ _ hbegins hwhole => by
        cases (h.unique hbegins).2
        cases hcut.symm.trans hwhole
      cut := fun _ _ _ hbegins hcut' => by
        cases (h.unique hbegins).2
        cases hcut.symm.trans hcut'
        exact ⟨rfl, rfl⟩ }
  | @answered u reply body h hwhole => exact {
      refused := iff_of_false nofun h.makeable
      unseen := nofun
      made := fun _ => .inr ⟨reply.status, body, u.target, rfl, rfl⟩
      seen := .inr ⟨u.target, rfl⟩
      failure_url := fun _ he => by cases he
      response_url := fun _ he => by cases he; rfl
      reported := fun hfails => absurd hfails h.not_sendingFails
      unreported := fun _ => rfl
      answered := fun _ _ _ hbegins hwhole' => by
        cases (h.unique hbegins).2
        cases hwhole.symm.trans hwhole'
        rfl
      cut := fun _ _ _ hbegins hcut => by
        cases (h.unique hbegins).2
        cases hwhole.symm.trans hcut }

theorem classified_fetch (c : Client) (n : Network) (r : Request) : c.Classified n r (c.fetch n r) :=
  (fate_fetch c n r).classified

/-- A server that has seen the request and answers nothing in time. -/
example : named.fetch (fun _ => .dropped true ⟨"too late", ["operation timed out"]⟩) ⟨"http://host/", "k"⟩ =
    ⟨.error (.transport "http://host/" (.network ⟨"too late", ["operation timed out"]⟩)),
      [⟨"GET / HTTP/1.1", "k", named.userAgent⟩], [.sendingFailed "http://host/" "too late"]⟩ := rfl

/-- A server whose answer breaks off after its head. -/
example : named.fetch (fun _ => .connected ⟨[("/", ⟨200, [], some .cutBody, by decide⟩)]⟩) ⟨"http://host/", "k"⟩ =
    ⟨.error (.transport "http://host/" (.network .cutBody)), [⟨"GET / HTTP/1.1", "k", named.userAgent⟩], []⟩ := rfl

/-- A host that refuses the connection. -/
example : (named.fetch (fun u => .closed (.refused u.text)) ⟨"http://host/", "k"⟩).events =
    [.sendingFailed "http://host/" "error sending request for url (http://host/)"] := rfl

end Client

end FlowCluster.Http
