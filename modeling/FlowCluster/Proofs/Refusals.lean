import FlowCluster.Proofs.Json.Alike
import FlowCluster.Proofs.Meaning
import FlowCluster.Proofs.Pages
import FlowCluster.Proofs.Passwords

/-! # What a refusal tells of a password

A list of clusters that is refused is refused for a reason and at a place, and both are told. Two lists that differ in one
password only are read alike, if both passwords are texts of one length: the reason and the place do not depend on it. A
number in place of a password is always refused, but the reason names it, and so is a string that denotes no text, but
the place of that is told. The body of what is refused is told to the log
alone, which may be told not to show it. -/

namespace FlowCluster

open Json

namespace Event

/-- Whether an event tells why a body was not read, and what the body was. -/
def isDecodingFailure : Event → Bool
  | .decodingFailed .. => true
  | _ => false

end Event

namespace Attempt

variable {ρ ε ε' ε'' α β : Type}

/-- What is left of an attempt without the bodies in its events, and with its failure as `f` shows it. -/
def blur (f : ε → ε') (x : Attempt ρ ε α) : Attempt ρ ε' α :=
  ⟨x.result.mapError f, x.seen, x.events.filter fun e => !e.isDecodingFailure⟩

theorem blur_bind (f : ε → ε') (x : Attempt ρ ε α) (k : α → Attempt ρ ε β) :
    (x >>= k).blur f = x.blur f >>= fun a => (k a).blur f := by
  obtain ⟨result, seen, events⟩ := x
  cases result with
  | ok a =>
    rw [bind_of_ok rfl, bind_of_ok (a := a) rfl]
    simp only [blur, List.filter_append]
  | error e =>
    rw [bind_of_error rfl, bind_of_error (e := f e) rfl]
    rfl

theorem blur_map (f : ε → ε') (g : α → β) (x : Attempt ρ ε α) : (g <$> x).blur f = g <$> x.blur f := by
  rw [← bind_pure_comp, ← bind_pure_comp, blur_bind]
  rfl

theorem blur_mapFailure (f : ε' → ε'') (g : ε → ε') (x : Attempt ρ ε α) :
    (x.mapFailure g).blur f = x.blur fun e => f (g e) := by
  obtain ⟨result, seen, events⟩ := x
  cases result with
  | ok a => rfl
  | error e => rfl

end Attempt

variable {ρ ε α : Type} {s : Settings} {t t' : Transport ρ} {url apiKey id : String} {body body' : Bytes}

/-- A document that is refused, with the body in the event that tells it. -/
theorem Lookup.document_of_refused {r : Request} {own : String} {seen : List ρ} {events : List Event}
    {decoder : Json.Decoder α} {refusal : Rejection} (h : t.fetch r = ⟨.ok ⟨own, 200, some body⟩, seen, events⟩)
    (hread : Json.read decoder body = .error refusal) (failed : CallFailure → Event) :
    document t decoder failed r =
      ⟨.error (.decode r.url refusal), seen, events ++ [.decodingFailed r.url refusal body]⟩ := by
  have hdecode : (decodeBody decoder r.url body : Attempt ρ CallFailure α) =
      ⟨.error (.decode r.url refusal), [], [.decodingFailed r.url refusal body]⟩ := by
    rw [decodeBody, hread]
  rw [document, body_of_served h, Attempt.reportFailure, Attempt.bind_of_ok rfl, hdecode]
  simp only [List.append_nil]

/-- Two lists of clusters that are refused, each with what `f` leaves of its refusal the same. -/
def RefusedAlike (f : LookupFailure → ε) (body body' : Bytes) : Prop :=
  ∃ r r', Json.read (Json.list Cluster.decoder) body = .error r ∧
    Json.read (Json.list Cluster.decoder) body' = .error r' ∧
    ∀ u, f (.clusters (.decode u r)) = f (.clusters (.decode u r'))

/-- Two lists of clusters that are refused alike, or that are read the same up to passwords. -/
def ListingsAlike (f : LookupFailure → ε) (body body' : Bytes) : Prop :=
  RefusedAlike f body body' ∨
    ∃ cs ds, Json.read (Json.list Cluster.decoder) body = .ok cs ∧
      Json.read (Json.list Cluster.decoder) body' = .ok ds ∧
      cs.map Cluster.withoutPassword = ds.map Cluster.withoutPassword

namespace Transport.DifferAt

variable {f : LookupFailure → ε}

theorem blur_clusters (h : DifferAt url body body' t t') (hbodies : RefusedAlike f body body') (s : Settings)
    (bucket : String) : (Resolution.clusters s t bucket).blur f = (Resolution.clusters s t' bucket).blur f := by
  obtain ⟨r, r', hr, hr', hsame⟩ := hbodies
  have hdocument (u : String) (failed : CallFailure → Event) (key : String) :
      (Lookup.document t (Json.list Cluster.decoder) failed ⟨u, key⟩).blur (fun e => f (.clusters e)) =
        (Lookup.document t' (Json.list Cluster.decoder) failed ⟨u, key⟩).blur fun e => f (.clusters e) := by
    by_cases hu : u = url
    · obtain ⟨_, _, seen, events, ht, ht'⟩ := h.there ⟨u, key⟩ hu
      rw [Lookup.document_of_refused ht hr, Lookup.document_of_refused ht' hr']
      simp only [Attempt.blur, Except.mapError, hsame, List.filter_append]
      rfl
    · rw [Lookup.document_congr (h.elsewhere ⟨u, key⟩ hu)]
  simp only [Resolution.clusters, Lookup.clusters, Attempt.blur_bind, Attempt.blur_mapFailure, hdocument]

variable (hflow : s.flowUrl id ≠ .ok url)

include hflow

theorem blur_bucketClusters (h : DifferAt url body body' t t') (hbodies : RefusedAlike f body body') (apiKey : String) :
    (Resolution.bucketClusters s t apiKey id).blur f = (Resolution.bucketClusters s t' apiKey id).blur f := by
  simp only [Resolution.bucketClusters, Resolution.flow_congr h.elsewhere hflow, Attempt.blur_bind,
    h.blur_clusters hbodies]

theorem blur_resolve (h : DifferAt url body body' t t') (hbodies : RefusedAlike f body body')
    (apiKey identifier : String) :
    (Resolution.resolve s t apiKey id identifier).blur f = (Resolution.resolve s t' apiKey id identifier).blur f := by
  rw [Resolution.resolve, Resolution.resolve, Attempt.blur_bind, Attempt.blur_bind,
    h.blur_bucketClusters hflow hbodies]

theorem blur_resolveStrict (h : DifferAt url body body' t t') (hbodies : RefusedAlike f body body')
    (apiKey identifier : String) :
    (Resolution.resolveStrict s t apiKey id identifier).blur f =
      (Resolution.resolveStrict s t' apiKey id identifier).blur f := by
  rw [Resolution.resolveStrict, Resolution.resolveStrict, Attempt.blur_bind, Attempt.blur_bind,
    h.blur_bucketClusters hflow hbodies]

end Transport.DifferAt

namespace Cluster

theorem hasLocalFields : layout.HasLocalFields := Layout.ofTexts_hasLocalFields "ClusterRecord" blank texts

/-- Whatever is put into two records that are the same up to their passwords, they stay so. -/
theorem respects_withoutPassword : layout.Respects withoutPassword := by
  have hfield {name : String} {put : String → Cluster → Cluster}
      (hput : ∀ text x y, withoutPassword x = withoutPassword y → withoutPassword (put text x) = withoutPassword (put text y))
      {d : Nat} {s : Bytes} {change : Cluster → Cluster} {q : Rest s}
      (hread : (Field.nullableText name put).decoder d s = .ok (change, q)) (x y : Cluster)
      (hxy : withoutPassword x = withoutPassword y) : withoutPassword (change x) = withoutPassword (change y) := by
    obtain ⟨-, -, -, ⟨text, -, rfl⟩, -⟩ := (Field.nullableText_reads name put d).sound ⟨q.shorter, hread⟩
    exact hput text x y hxy
  intro f hf d s change q hread
  simp only [layout, List.mem_cons, List.not_mem_nil, or_false] at hf
  rcases hf with rfl | rfl | rfl | rfl | rfl | rfl
  all_goals
    refine hfield (fun text x y hxy => ?_) hread
    simp only [withoutPassword, Cluster.mk.injEq] at hxy ⊢
    simp only [hxy, and_self]

end Cluster

/-- The kinds of values without parts, null apart. A string may be garbled, so that it denotes no text. -/
inductive Kind
  | text
  | garbled
  | number
  | boolean
  deriving DecidableEq

namespace Kind

/-- The texts of the values of a kind. -/
def Writes : Kind → Bytes → Prop
  | .text, e => ∃ t, Quoted e t
  | .garbled, e => Garbled e
  | .number, e => ∃ x, Numeral.Written e x
  | .boolean, e => e = Text.Utf8.encode "true" ∨ e = Text.Utf8.encode "false"

/-- Whether a failure is the same for all values of the kind and of one length. Where a number is refused it is named, and
where a garbled string is refused the place is named. -/
def isHidden : Kind → Bool
  | .text => true
  | .garbled => false
  | .number => false
  | .boolean => true

/-- What is told of a failure, for all that a value of the kind may be in it. -/
def tell (k : Kind) (e : LookupFailure) : Option LookupFailure := if k.isHidden then some e else none

theorem tell_injective {k : Kind} (hk : k.isHidden = true) : k.tell.Injective := by
  intro e e' h
  rw [tell, tell, if_pos hk, if_pos hk] at h
  exact Option.some.inj h

/-- Booleans of one length are the same. -/
theorem Writes.eq_of_length {e e' : Bytes} (he : Kind.boolean.Writes e) (he' : Kind.boolean.Writes e')
    (h : e.length = e'.length) : e = e' := by
  have hlength : (Text.Utf8.encode "true").length ≠ (Text.Utf8.encode "false").length := by decide
  rcases he with rfl | rfl <;> rcases he' with rfl | rfl
  · rfl
  · exact absurd h hlength
  · exact absurd h.symm hlength
  · rfl

end Kind

/-- Two lists of clusters are alike if one has another password of the same kind and length in the place of one. -/
theorem listings_alike {k : Kind} {b v v' : Bytes} (hb : BeforeValue "password" b) (hv : k.Writes v) (hv' : k.Writes v')
    (hlength : v.length = v'.length) (r : Bytes) : ListingsAlike k.tell (b ++ (v ++ r)) (b ++ (v' ++ r)) := by
  have hfield : Cluster.layout.field? "password" =
      some (.nullableText "password" fun x c => { c with password := x }) := rfl
  -- Of values that are refused no more is said than that.
  have hrefused (hnone : ∀ e, k.tell e = none)
      (hvalue : Field.ReadsAlike (.nullableText "password" fun x (c : Cluster) => { c with password := x })
        (fun _ _ => True) Cluster.withoutPassword (v ++ r) (v' ++ r)) :
      ListingsAlike k.tell (b ++ (v ++ r)) (b ++ (v' ++ r)) := by
    have hlist := list_alike_at (fun _ => trivial) Cluster.respects_withoutPassword Cluster.hasLocalFields hfield hvalue
      hb depthLimit
    rcases read_alike (fun _ => trivial) hlist with ⟨f, f', hf, hf', -⟩ | hread
    · exact .inl ⟨_, _, hf, hf', fun u => by rw [hnone, hnone]⟩
    · exact .inr hread
  cases k with
  | text =>
    obtain ⟨x, hx⟩ := hv
    obtain ⟨x', hx'⟩ := hv'
    have hvalue : Field.ReadsAlike (.nullableText "password" fun x (c : Cluster) => { c with password := x }) Eq
        Cluster.withoutPassword (v ++ r) (v' ++ r) := Field.readsAlike_texts hx hx' hlength fun _ _ h => h
    have hlist := list_alike_at (fun _ => rfl) Cluster.respects_withoutPassword Cluster.hasLocalFields hfield hvalue hb
      depthLimit
    rcases read_alike (fun _ => rfl) hlist with ⟨f, _, hf, hf', rfl⟩ | hread
    · refine .inl ⟨_, _, hf, hf', fun u => ?_⟩
      rw [f.locate_congr hlength hx.no_break hx'.no_break]
    · exact .inr hread
  | garbled =>
    exact hrefused (fun _ => rfl)
      (Field.readsAlike_refused (Field.nullableText_garbled hv) (Field.nullableText_garbled hv') hlength)
  | number =>
    obtain ⟨x, hx⟩ := hv
    obtain ⟨x', hx'⟩ := hv'
    exact hrefused (fun _ => rfl)
      (Field.readsAlike_refused (Field.nullableText_number hx) (Field.nullableText_number hx') hlength)
  | boolean =>
    rw [hv.eq_of_length hv' hlength]
    cases hread : Json.read (Json.list Cluster.decoder) (b ++ (v' ++ r)) with
    | error refusal => exact .inl ⟨refusal, refusal, hread, hread, fun _ => rfl⟩
    | ok cs => exact .inr ⟨cs, cs, hread, hread, rfl⟩

/-- Both succeed or both fail, and they fail in the same way if they differ in a value of a hidden kind. -/
structure EndAlike (k : Kind) (x y : Except LookupFailure α) : Prop where
  succeeds : x.isOk = y.isOk
  fails : k.isHidden = true → ∀ e, x = .error e ↔ y = .error e

namespace EndAlike

variable {k : Kind} {x y : Except LookupFailure α}

theorem of_tell (h : x.mapError k.tell = y.mapError k.tell) : EndAlike k x y := by
  cases x with
  | ok a =>
    cases y with
    | ok b =>
      cases h
      exact ⟨rfl, fun _ e => Iff.rfl⟩
    | error e => cases h
  | error e =>
    cases y with
    | ok b => cases h
    | error e' =>
      refine ⟨rfl, fun hk => ?_⟩
      obtain rfl := Kind.tell_injective hk (Except.error.inj h)
      exact fun _ => Iff.rfl

theorem of_map {β : Type} {g : α → β} (h : g <$> x = g <$> y) : EndAlike k x y := by
  cases x with
  | ok a =>
    cases y with
    | ok b => exact ⟨rfl, fun _ e => iff_of_false (fun h => by cases h) fun h => by cases h⟩
    | error e => cases h
  | error e =>
    cases y with
    | ok b => cases h
    | error e' =>
      cases h
      exact ⟨rfl, fun _ _ => Iff.rfl⟩

end EndAlike

theorem mapError_injective {α : Type} {f : ε → ε'} (hf : f.Injective) {x y : Except ε α}
    (h : x.mapError f = y.mapError f) : x = y := by
  cases x with
  | ok a =>
    cases y with
    | ok b =>
      cases h
      rfl
    | error e => cases h
  | error e =>
    cases y with
    | ok b => cases h
    | error e' => exact congrArg Except.error (hf (Except.error.inj h))

/-- Attempts of which nothing is the same but what `g` leaves of them are the same where they fail. -/
theorem Attempt.eq_of_map_eq {β : Type} {g : α → β} {x y : Attempt ρ ε α} (h : g <$> x = g <$> y) {e : ε}
    (he : x.result = .error e) : x = y := by
  have hseen := congrArg Attempt.seen h
  have hevents := congrArg Attempt.events h
  have hresult := congrArg Attempt.result h
  rw [map_seen, map_seen] at hseen
  rw [map_events, map_events] at hevents
  rw [map_result, map_result, he] at hresult
  obtain ⟨result, seen, events⟩ := x
  obtain ⟨result', seen', events'⟩ := y
  cases result' with
  | ok b => cases hresult
  | error e' =>
    cases hresult
    cases he
    cases hseen
    cases hevents
    rfl

end FlowCluster
