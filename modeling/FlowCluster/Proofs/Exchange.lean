import FlowCluster.Directory

/-! # What an attempt leaves

The result of a sequence of attempts is the sequence of their results, and its trail is that of the first, followed by
that of the second if the first gave a value. A directory in memory sees each request it is sent and nothing else,
whatever it answers and reports. -/

namespace FlowCluster

namespace Attempt

variable {ρ ε ε' α β γ : Type}

@[simp] theorem ofExcept_result (r : Except ε α) : (ofExcept r : Attempt ρ ε α).result = r := rfl
@[simp] theorem ofExcept_seen (r : Except ε α) : (ofExcept r : Attempt ρ ε α).seen = [] := rfl
@[simp] theorem pure_result (a : α) : (pure a : Attempt ρ ε α).result = .ok a := rfl
@[simp] theorem pure_seen (a : α) : (pure a : Attempt ρ ε α).seen = [] := rfl
@[simp] theorem report_result (e : Event) : (report e : Attempt ρ ε Unit).result = .ok () := rfl
@[simp] theorem report_seen (e : Event) : (report e : Attempt ρ ε Unit).seen = [] := rfl
@[simp] theorem ofExcept_events (r : Except ε α) : (ofExcept r : Attempt ρ ε α).events = [] := rfl
@[simp] theorem pure_events (a : α) : (pure a : Attempt ρ ε α).events = [] := rfl
@[simp] theorem report_events (e : Event) : (report e : Attempt ρ ε Unit).events = [e] := rfl

@[simp] theorem mapFailure_result (f : ε → ε') (x : Attempt ρ ε α) : (x.mapFailure f).result = x.result.mapError f :=
  rfl

@[simp] theorem mapFailure_seen (f : ε → ε') (x : Attempt ρ ε α) : (x.mapFailure f).seen = x.seen := rfl

@[simp] theorem mapFailure_events (f : ε → ε') (x : Attempt ρ ε α) : (x.mapFailure f).events = x.events := rfl

@[simp] theorem reportFailure_result (x : Attempt ρ ε α) (event : ε → Event) :
    (x.reportFailure event).result = x.result := by
  rw [reportFailure]
  split <;> rfl

@[simp] theorem reportFailure_seen (x : Attempt ρ ε α) (event : ε → Event) :
    (x.reportFailure event).seen = x.seen := by
  rw [reportFailure]
  split <;> rfl

@[simp] theorem bind_result (x : Attempt ρ ε α) (f : α → Attempt ρ ε β) :
    (x >>= f).result = x.result >>= fun a => (f a).result := by
  change (andThen x f).result = _
  rw [andThen]
  cases x.result with
  | ok a => rfl
  | error e => rfl

theorem bind_seen (x : Attempt ρ ε α) (f : α → Attempt ρ ε β) :
    (x >>= f).seen = x.seen ++ (match x.result with | .ok a => (f a).seen | .error _ => []) := by
  change (andThen x f).seen = _
  rw [andThen]
  cases x.result with
  | ok a => rfl
  | error e => exact (List.append_nil x.seen).symm

theorem bind_events (x : Attempt ρ ε α) (f : α → Attempt ρ ε β) :
    (x >>= f).events = x.events ++ (match x.result with | .ok a => (f a).events | .error _ => []) := by
  change (andThen x f).events = _
  rw [andThen]
  cases x.result with
  | ok a => rfl
  | error e => exact (List.append_nil x.events).symm

theorem bind_of_ok {x : Attempt ρ ε α} {a : α} (h : x.result = .ok a) (f : α → Attempt ρ ε β) :
    x >>= f = ⟨(f a).result, x.seen ++ (f a).seen, x.events ++ (f a).events⟩ := by
  change andThen x f = _
  rw [andThen, h]

theorem bind_of_error {x : Attempt ρ ε α} {e : ε} (h : x.result = .error e) (f : α → Attempt ρ ε β) :
    x >>= f = ⟨.error e, x.seen, x.events⟩ := by
  change andThen x f = _
  rw [andThen, h]

theorem reportFailure_events (x : Attempt ρ ε α) (event : ε → Event) :
    (x.reportFailure event).events = x.events ++ (match x.result with | .ok _ => [] | .error e => [event e]) := by
  unfold reportFailure
  cases h : x.result with
  | ok a => exact (List.append_nil _).symm
  | error e => rfl

theorem ofExcept_ok (a : α) : (ofExcept (.ok a) : Attempt ρ ε α) = pure a := rfl

@[simp] theorem map_result (g : α → β) (x : Attempt ρ ε α) : (g <$> x).result = g <$> x.result := by
  change (x >>= fun a => pure (g a)).result = _
  rw [bind_result]
  cases x.result <;> rfl

@[simp] theorem map_seen (g : α → β) (x : Attempt ρ ε α) : (g <$> x).seen = x.seen := by
  change (x >>= fun a => pure (g a)).seen = _
  rw [bind_seen]
  split <;> simp

@[simp] theorem map_events (g : α → β) (x : Attempt ρ ε α) : (g <$> x).events = x.events := by
  change (x >>= fun a => pure (g a)).events = _
  rw [bind_events]
  split <;> simp

theorem andThen_pure (x : Attempt ρ ε α) : x.andThen pure = x := by
  obtain ⟨r, seen, events⟩ := x
  cases r with
  | ok a => simp only [andThen, pure_result, pure_seen, pure_events, List.append_nil]
  | error e => rfl

/-- Trails are joined in the order of the calls, however these are grouped. -/
theorem andThen_assoc (x : Attempt ρ ε α) (f : α → Attempt ρ ε β) (g : β → Attempt ρ ε γ) :
    (x.andThen f).andThen g = x.andThen fun a => (f a).andThen g := by
  rw [andThen, andThen, andThen]
  cases x.result with
  | error e => rfl
  | ok a =>
    simp only [andThen]
    cases (f a).result with
    | error e => rfl
    | ok b => simp only [List.append_assoc]

instance : LawfulMonad (Attempt ρ ε) := .mk' _ andThen_pure (fun a f => bind_of_ok (pure_result a) f) andThen_assoc

theorem map_mk_ok (g : α → β) (a : α) (seen : List ρ) (events : List Event) :
    g <$> (⟨.ok a, seen, events⟩ : Attempt ρ ε α) = ⟨.ok (g a), seen, events⟩ := by
  change andThen _ (fun a => pure (g a)) = _
  simp only [andThen, pure_result, pure_seen, pure_events, List.append_nil]

theorem map_ofExcept (g : α → β) (r : Except ε α) : g <$> (ofExcept r : Attempt ρ ε α) = ofExcept (g <$> r) := by
  cases r with
  | ok a => rfl
  | error e => rfl

theorem map_mapFailure (g : α → β) (f : ε → ε') (x : Attempt ρ ε α) :
    g <$> x.mapFailure f = (g <$> x).mapFailure f := by
  obtain ⟨r, seen, events⟩ := x
  cases r with
  | ok a => rfl
  | error e => rfl

end Attempt

namespace Directory

@[simp] theorem fetch_result (d : Directory) (r : Request) : (d.transport.fetch r).result = (d.answer r.url).1 := rfl
@[simp] theorem fetch_seen (d : Directory) (r : Request) : (d.transport.fetch r).seen = [r] := rfl
@[simp] theorem fetch_events (d : Directory) (r : Request) : (d.transport.fetch r).events = (d.answer r.url).2 := rfl

/-- A page that is put in place is what is at its address. -/
theorem answer_publish (d : Directory) (url : String) (status : UInt16) (body : Option Bytes) (own : Option String) :
    (d.publish url (.answer status body own)).answer url = (.ok ⟨own.getD url, status, body⟩, []) := by
  have hgone : (d.routes.filter fun r => r.1 != url).find? (fun r => r.1 == url) = none := by
    rw [List.find?_eq_none]
    intro r hr
    have hne := (List.mem_filter.mp hr).2
    simpa using hne
  rw [answer, publish, List.find?_append, hgone]
  simp

/-- A page that is put in place changes what is at its own address alone. -/
theorem answer_publish_of_ne (d : Directory) {url u : String} (h : u ≠ url) (page : Page) :
    (d.publish url page).answer u = d.answer u := by
  have hkept : (d.routes.filter fun r => r.1 != url).find? (fun r => r.1 == u) = d.routes.find? fun r => r.1 == u := by
    rw [List.find?_filter]
    congr 1
    funext r
    by_cases hr : r.1 = u
    · simp [hr, h]
    · simp [hr]
  have hother : [(url, page)].find? (fun r => r.1 == u) = none := by
    simp [Ne.symm h]
  rw [answer, publish, List.find?_append, hkept, hother, Option.or_none, answer]

end Directory

/-- A directory in memory: it sees every request as it is, and answers and reports as it likes. -/
def Transport.recording (answer : Request → Except CallFailure Response × List Event) : Transport Request where
  fetch r := ⟨(answer r).1, [r], (answer r).2⟩

/-- A directory in memory that answers, and reports, by the address of a request alone. -/
def Transport.byAddress (answer : String → Except CallFailure Response × List Event) : Transport Request :=
  .recording fun r => answer r.url

theorem Transport.fetch_byAddress (answer : String → Except CallFailure Response × List Event) (r : Request) :
    (byAddress answer).fetch r = ⟨(answer r.url).1, [r], (answer r.url).2⟩ := rfl

end FlowCluster
