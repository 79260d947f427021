import FlowCluster.Proofs.Json.Layout
import FlowCluster.Proofs.Lookup
import FlowCluster.Record.Cluster
import FlowCluster.Record.Flow

/-! # Where a body ends

The bodies that are decoded end with a bracket and white space. What follows a body that is accepted decides whether
it is still accepted and never what it means, so neither a body cut short nor one that goes on is taken for another. -/

namespace FlowCluster

open Json

/-! ## The records that are read

Every field of a cluster, a team or a flow is read from texts of its own, so each of these records, and each list of
clusters, has texts that end with the bracket they begin with. -/

theorem Cluster.regular : Cluster.layout.Regular := by
  intro f hf d
  simp only [Cluster.layout, List.mem_cons, List.not_mem_nil, or_false] at hf
  rcases hf with rfl | rfl | rfl | rfl | rfl | rfl <;> exact (Field.nullableText_reads _ _ d).exactly_apart

theorem Team.regular : Team.layout.Regular := by
  intro f hf d
  simp only [Team.layout, List.mem_cons, List.not_mem_nil, or_false] at hf
  rcases hf with rfl | rfl | rfl <;> exact (Field.nullableText_reads _ _ d).exactly_apart

private theorem value_field_reads {σ : Type} (name : String) (put : Value → σ → σ) (d : Nat) :
    Reads Apart ((Field.of name value put).decoder d) (Exactly ((Field.of name value put).decoder d)) :=
  (Field.of_reads (value_reads d)).exactly apart_nil

/-- The team of a flow is null or a record of its own. -/
theorem Flow.team_field_reads (d : Nat) :
    Reads Anything ((Field.of "team" (orNull .blank Team.decoder) fun x (f : Flow) => { f with team := x }).decoder d)
      (fun e change => ∃ x, OrNull .blank (Team.layout.RecordText d) e x ∧ change = fun f => { f with team := x }) :=
  Field.of_reads (orNull_reads (Layout.decoder_reads Team.regular d) (Layout.not_recordText_null _ d))

theorem Flow.regular : Flow.layout.Regular := by
  intro f hf d
  simp only [Flow.layout, List.mem_cons, List.not_mem_nil, or_false] at hf
  rcases hf with rfl | rfl | rfl | rfl | rfl | rfl
  · exact (Field.nullableText_reads _ _ d).exactly_apart
  · exact (Flow.team_field_reads d).exactly_apart
  all_goals exact value_field_reads _ _ d

theorem Cluster.decoder_reads (d : Nat) : Reads Anything (Cluster.decoder d) (Cluster.layout.RecordText d) :=
  Layout.decoder_reads Cluster.regular d

theorem Cluster.list_reads (d : Nat) : Reads Anything (list Cluster.decoder d) (Listed Cluster.layout.RecordText d) :=
  Json.list_reads (fun d => (Cluster.decoder_reads d).apart) d

theorem Team.decoder_reads (d : Nat) : Reads Anything (Team.decoder d) (Team.layout.RecordText d) :=
  Layout.decoder_reads Team.regular d

theorem Flow.decoder_reads (d : Nat) : Reads Anything (Flow.decoder d) (Flow.layout.RecordText d) :=
  Layout.decoder_reads Flow.regular d

/-! ## Bodies -/

/-- The kinds of bodies that are decoded. -/
inductive Body
  | flow
  | team
  | cluster
  | clusters

namespace Body

/-- What a body of a kind writes. -/
abbrev Record : Body → Type
  | flow => Flow
  | team => Team
  | cluster => Cluster
  | clusters => List Cluster

/-- How a body of a kind is read. -/
def decoder : (k : Body) → Decoder k.Record
  | flow => Flow.decoder
  | team => Team.decoder
  | cluster => Cluster.decoder
  | clusters => list Cluster.decoder

/-- What a body from an address is decoded to. -/
def decode (k : Body) (url : String) (body : Bytes) : Except CallFailure k.Record :=
  (Lookup.decodeBody k.decoder url body : Attempt Request CallFailure k.Record).result

private theorem decoder_reads (k : Body) :
    ∃ R, Reads Anything (k.decoder depthLimit) R ∧ ∀ e x, R e x → Closed e := by
  cases k with
  | flow => exact ⟨_, Flow.decoder_reads _, fun _ _ h => h.closed⟩
  | team => exact ⟨_, Team.decoder_reads _, fun _ _ h => h.closed⟩
  | cluster => exact ⟨_, Cluster.decoder_reads _, fun _ _ h => h.closed⟩
  | clusters => exact ⟨_, Cluster.list_reads depthLimit, fun _ _ h => h.closed⟩

theorem decode_eq_ok_iff {k : Body} {url : String} {body : Bytes} {x : k.Record} :
    k.decode url body = .ok x ↔ read k.decoder body = .ok x := by
  rw [decode, Lookup.decodeBody_result]
  cases read k.decoder body <;> simp [Except.mapError]

/-- A body that is not accepted is a failure to decode it. -/
theorem decode_eq_error {k : Body} {url : String} {body : Bytes} (h : ∀ x, k.decode url body ≠ .ok x) :
    ∃ r, k.decode url body = .error (.decode url r) := by
  simp only [decode, Lookup.decodeBody_result] at h ⊢
  cases hr : read k.decoder body with
  | error r => exact ⟨r, rfl⟩
  | ok x => exact absurd (by rw [hr]; rfl) (h x)

/-- An accepted body up to its closing bracket, which settles what is accepted after it. -/
private theorem exists_closing {k : Body} {url : String} {body : Bytes} {x : k.Record}
    (h : k.decode url body = .ok x) :
    ∃ a c w, body = a ++ c :: w ∧ (c = ']'.toUInt8 ∨ c = '\x7d'.toUInt8) ∧ Blank w ∧
      ∀ r y, k.decode url (a ++ c :: r) = .ok y ↔ Blank r ∧ y = x := by
  obtain ⟨R, hR, hc⟩ := k.decoder_reads
  obtain ⟨v, e, w, hv, he, hw, rfl⟩ := (read_eq_ok_iff hR).mp (decode_eq_ok_iff.mp h)
  obtain ⟨e', c, rfl, hc⟩ := hc e x he
  refine ⟨v ++ e', c, w, by simp, hc, hw, fun r y => ?_⟩
  rw [decode_eq_ok_iff, ← read_append_eq_ok_iff hR hv he (r := r) (y := y)]
  simp

/-- An accepted body may be followed by white space and by nothing else, and none of its cuts that loses the closing
bracket is accepted. -/
theorem decode_extent (k : Body) (url : String) (body : Bytes) (x : k.Record) (h : k.decode url body = .ok x) :
    (∀ rest, (∃ y, k.decode url (body ++ rest) = .ok y) ↔ Blank rest) ∧
    (∀ rest y, k.decode url (body ++ rest) = .ok y → y = x) ∧
    ∃ a c w, body = a ++ c :: w ∧ (c = ']'.toUInt8 ∨ c = '\x7d'.toUInt8) ∧ Blank w ∧
      (∀ n, n ≤ a.length → ∃ r, k.decode url (body.take n) = .error (.decode url r)) ∧
      ∀ n, a.length < n → k.decode url (body.take n) = .ok x := by
  -- The first two parts hold of every accepted body; the third uses them for a cut.
  have hrest {k : Body} {body : Bytes} {x : k.Record} (h : k.decode url body = .ok x) (rest : Bytes) (y : k.Record) :
      k.decode url (body ++ rest) = .ok y ↔ Blank rest ∧ y = x := by
    obtain ⟨a, c, w, rfl, -, hw, hacc⟩ := exists_closing h
    rw [List.append_assoc, List.cons_append, hacc, blank_append_iff]
    simp [hw]
  refine ⟨fun rest => ?_, fun rest y hy => ((hrest h rest y).mp hy).2, ?_⟩
  · constructor
    · rintro ⟨y, hy⟩
      exact ((hrest h rest y).mp hy).1
    · exact fun hb => ⟨x, (hrest h rest x).mpr ⟨hb, rfl⟩⟩
  · obtain ⟨a, c, w, rfl, hc, hw, hacc⟩ := exists_closing h
    refine ⟨a, c, w, rfl, hc, hw, fun n hn => decode_eq_error fun y hy => ?_, fun n hn => ?_⟩
    · have hdrop : Blank ((a ++ c :: w).drop n) := by
        rw [← List.take_append_drop n (a ++ c :: w)] at h
        exact ((hrest hy _ x).mp h).1
      have hmem : c ∈ (a ++ c :: w).drop n := by
        rw [List.drop_append_of_le_length hn]
        simp
      have hblank := hdrop c hmem
      rcases hc with rfl | rfl <;> exact absurd hblank (by decide)
    · obtain ⟨m, rfl⟩ : ∃ m, n = a.length + (m + 1) := ⟨n - a.length - 1, by omega⟩
      rw [List.take_length_add_append, List.take_succ_cons, hacc]
      exact ⟨fun b hb => hw b (List.mem_of_mem_take hb), rfl⟩

/-- A list of two clusters, whose cuts are no lists of one. -/
theorem decode_extent_two_clusters :
    let body := Text.Utf8.encode "[\x7b\"identifier\":\"a\"\x7d,\x7b\"type\":null\x7d]\n"
    clusters.decode "http://localhost" body = .ok [{ Cluster.blank with identifier := "a" }, Cluster.blank] ∧
      ∀ rest, (∃ y, clusters.decode "http://localhost" (body ++ rest) = .ok y) ↔ Blank rest := by
  have h : clusters.decode "http://localhost" (Text.Utf8.encode
      "[\x7b\"identifier\":\"a\"\x7d,\x7b\"type\":null\x7d]\n") =
      .ok [{ Cluster.blank with identifier := "a" }, Cluster.blank] :=
    decode_eq_ok_iff.mpr (by decide +kernel)
  exact ⟨h, (decode_extent clusters _ _ _ h).1⟩

end Body
end FlowCluster
