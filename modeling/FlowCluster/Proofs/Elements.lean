import FlowCluster.Proofs.Json.Elements
import FlowCluster.Proofs.Meaning

/-! # Lists of clusters by their elements

A list of clusters is decoded element by element, each as it would be alone, and all or none. Cut at the commas outside
of strings and brackets, whatever stands between them, it is accepted exactly if every piece is. -/

namespace FlowCluster

open Json

theorem Cluster.shallow : Cluster.layout.Shallow := Layout.ofTexts_shallow "ClusterRecord" Cluster.blank Cluster.texts

theorem Cluster.valued : Cluster.layout.Valued := Layout.ofTexts_valued "ClusterRecord" Cluster.blank Cluster.texts

namespace Body

/-- Decoded alone, `e` is the cluster `c`. -/
def Accepts (url : String) (e : Bytes) (c : Cluster) : Prop := cluster.decode url e = .ok c

/-- A list in its brackets with white space around it. -/
def Bracketed (inner body : Bytes) : Prop :=
  ∃ v u, Blank v ∧ Blank u ∧ body = v ++ '['.toUInt8 :: (inner ++ ']'.toUInt8 :: u)

variable {url : String} {body e f inner : Bytes} {c : Cluster} {cs : List Cluster}

theorem accepts_iff : Accepts url e c ↔ Padded (Cluster.layout.RecordText depthLimit) e c := by
  rw [Accepts, decode_eq_ok_iff]
  exact read_eq_ok_iff (Cluster.decoder_reads depthLimit)

/-- A cluster is read inside the bracket of a list as it is read alone. -/
private theorem accepts_iff_inside : Accepts url e c ↔ Padded (Cluster.layout.RecordText (depthLimit - 1)) e c := by
  rw [accepts_iff]
  constructor
  · rintro ⟨v, f, w, hv, hf, hw, rfl⟩
    exact ⟨v, f, w, hv, hf.depth Cluster.shallow _, hw, rfl⟩
  · rintro ⟨v, f, w, hv, hf, hw, rfl⟩
    exact ⟨v, f, w, hv, hf.depth Cluster.shallow _, hw, rfl⟩

theorem clusters_decode_iff :
    clusters.decode url body = .ok cs ↔ ∃ inner, Bracketed inner body ∧ Elements (Accepts url) inner cs := by
  have haccepts : Accepts url = Padded (Cluster.layout.RecordText (depthLimit - 1)) := by
    funext e c
    exact propext accepts_iff_inside
  rw [decode_eq_ok_iff, haccepts]
  refine (read_eq_ok_iff (Cluster.list_reads depthLimit)).trans ?_
  constructor
  · rintro ⟨v, -, u, hv, ⟨k, t, hk, ht, rfl⟩, hu, rfl⟩
    obtain rfl : depthLimit - 1 = k := by omega
    obtain ⟨inner, rfl, he⟩ := items_iff.mp ht
    exact ⟨inner, ⟨v, u, hv, hu, by simp⟩, he⟩
  · rintro ⟨inner, ⟨v, u, hv, hu, rfl⟩, he⟩
    have ht := items_iff.mpr ⟨inner, rfl, he⟩
    exact ⟨v, _, u, hv, ⟨depthLimit - 1, _, rfl, ht, rfl⟩, hu, by simp⟩

theorem Accepts.piece (h : Accepts url e c) : Piece e := by
  obtain ⟨v, f, w, hv, hf, hw, rfl⟩ := accepts_iff.mp h
  exact hv.piece.append ((hf.isValue Cluster.valued).piece.append hw.piece)

private theorem not_accepts_blank (h : Blank e) : ¬Accepts url e c := by
  intro ha
  obtain ⟨v, f, w, -, hf, -, rfl⟩ := accepts_iff.mp ha
  obtain ⟨b, q, rfl, hb, -⟩ := (Cluster.decoder_reads depthLimit).starts hf
  have hblank : isBlank b = true := h b (by simp)
  rw [hb] at hblank
  cases hblank

/-- After a cluster only white space may follow. -/
private theorem Accepts.blank_of_append {d : Cluster} (he : Accepts url e c) (h : Accepts url (e ++ f) d) :
    Blank f := by
  obtain ⟨v, e', w, hv, he', hw, rfl⟩ := accepts_iff.mp he
  rw [Accepts, decode_eq_ok_iff, List.append_assoc, List.append_assoc] at h
  obtain ⟨hb, -⟩ := (read_append_eq_ok_iff (Cluster.decoder_reads depthLimit) hv he').mp h
  exact (blank_append_iff.mp hb).2

private theorem exists_accepts {es : List Bytes} (h : List.Forall₂ (Accepts url) es cs) :
    ∀ e ∈ es, ∃ c, Accepts url e c := by
  induction h with
  | nil => simp
  | cons he _ ih => exact List.forall_mem_cons.mpr ⟨⟨_, he⟩, ih⟩

/-- Pieces decide by themselves whether the list is accepted, and what it is then. -/
theorem clusters_decode_pieces {ps : List Bytes} (hps : ∀ p ∈ ps, Piece p) (hne : ¬Blank (joined ps))
    (hbody : Bracketed (joined ps) body) : clusters.decode url body = .ok cs ↔ List.Forall₂ (Accepts url) ps cs := by
  constructor
  · intro h
    obtain ⟨inner, ⟨v', u', hv', hu', heq⟩, he⟩ := clusters_decode_iff.mp h
    obtain ⟨v, u, hv, hu, rfl⟩ := hbody
    cases ps with
    | nil => exact absurd blank_nil hne
    | cons p ps =>
      have hopen (t : Bytes) : Starts ('['.toUInt8 :: t) := ⟨_, t, rfl, by decide, by decide⟩
      obtain ⟨-, heq⟩ := blank_append_inj hv hv' (hopen _) (hopen _) heq
      have heq := (List.cons.inj heq).2
      rw [joined_cons, List.append_assoc] at heq
      -- White space alone would be the only piece.
      have hblank (hb : Blank inner) : False := by
        have hpiece : ∀ q ∈ [inner], Piece q := by simpa using hb.piece
        have hone : p :: ps = [inner] := pieces_inj hps hpiece heq
        apply hne
        rw [hone, joined_cons, continued_nil, List.append_nil]
        exact hb
      rcases he with ⟨hb, -⟩ | ⟨es, hes, rfl⟩
      · exact (hblank hb).elim
      · cases es with
        | nil => exact (hblank blank_nil).elim
        | cons e es =>
          rw [joined_cons, List.append_assoc] at heq
          have hpieces : ∀ q ∈ e :: es, Piece q := by
            intro q hq
            obtain ⟨c, hc⟩ := exists_accepts hes q hq
            exact hc.piece
          rw [pieces_inj hps hpieces heq]
          exact hes
  · intro h
    exact clusters_decode_iff.mpr ⟨_, hbody, .inr ⟨ps, h, rfl⟩⟩

/-- One piece that is not accepted is enough. -/
theorem clusters_decode_rejected {ps : List Bytes} (hps : ∀ p ∈ ps, Piece p) (hne : ¬Blank (joined ps))
    (hbody : Bracketed (joined ps) body) (hbad : ∃ p ∈ ps, ∀ c, ¬Accepts url p c) :
    ∃ r, clusters.decode url body = .error (.decode url r) := by
  apply decode_eq_error
  intro cs h
  obtain ⟨p, hp, hbad⟩ := hbad
  obtain ⟨c, hc⟩ := exists_accepts ((clusters_decode_pieces hps hne hbody).mp h) p hp
  exact hbad c hc

/-- A comma after the last cluster is not let pass. -/
theorem clusters_decode_trailing {es : List Bytes} {w : Bytes} (hne : es ≠ []) (hes : ∀ e ∈ es, ∃ c, Accepts url e c)
    (hw : Blank w) (hbody : Bracketed (joined (es ++ [w])) body) :
    ∃ r, clusters.decode url body = .error (.decode url r) := by
  obtain ⟨e, he⟩ := List.exists_mem_of_ne_nil es hne
  obtain ⟨c, hc⟩ := hes e he
  have hpieces : ∀ p ∈ es ++ [w], Piece p := by
    intro p hp
    rcases List.mem_append.mp hp with hp | hp
    · obtain ⟨c, hc⟩ := hes p hp
      exact hc.piece
    · rw [List.mem_singleton.mp hp]
      exact hw.piece
  have hsome : ¬Blank (joined (es ++ [w])) := fun hb =>
    not_accepts_blank (blank_of_mem_joined hb (List.mem_append_left _ he)) hc
  have hlast : w ∈ es ++ [w] := List.mem_append_right _ (List.mem_singleton.mpr rfl)
  exact clusters_decode_rejected hpieces hsome hbody ⟨w, hlast, fun _ => not_accepts_blank hw⟩

/-- Two clusters with no comma between them are not let pass. -/
theorem clusters_decode_unseparated {es es' : List Bytes} {d : Cluster} (hes : ∀ p ∈ es ++ es', Piece p)
    (he : Accepts url e c) (hf : Accepts url f d) (hbody : Bracketed (joined (es ++ (e ++ f) :: es')) body) :
    ∃ r, clusters.decode url body = .error (.decode url r) := by
  have hmem : e ++ f ∈ es ++ (e ++ f) :: es' := List.mem_append_right _ (List.mem_cons_self ..)
  have hpieces : ∀ p ∈ es ++ (e ++ f) :: es', Piece p := by
    intro p hp
    rcases List.mem_append.mp hp with hp | hp
    · exact hes p (List.mem_append_left _ hp)
    · rcases List.mem_cons.mp hp with rfl | hp
      · exact he.piece.append hf.piece
      · exact hes p (List.mem_append_right _ hp)
  have hsome : ¬Blank (joined (es ++ (e ++ f) :: es')) := fun hb =>
    not_accepts_blank (blank_append_iff.mp (blank_of_mem_joined hb hmem)).1 he
  have hbad : ∀ x, ¬Accepts url (e ++ f) x := fun x hx => not_accepts_blank (he.blank_of_append hx) hf
  exact clusters_decode_rejected hpieces hsome hbody ⟨e ++ f, hmem, hbad⟩

/-- A body is accepted as a list of clusters exactly if it is the bodies of its clusters, each as accepted alone, with
commas between them, in brackets. So a piece that is no cluster, a trailing comma or a missing one is a failure to
decode the whole. -/
theorem decode_clusters_elementwise (url : String) (body : Bytes) :
    (∀ cs, clusters.decode url body = .ok cs ↔ ∃ inner, Bracketed inner body ∧ Elements (Accepts url) inner cs) ∧
    (∀ ps, (∀ p ∈ ps, Piece p) → ¬Blank (joined ps) → Bracketed (joined ps) body →
      (∀ cs, clusters.decode url body = .ok cs ↔ List.Forall₂ (Accepts url) ps cs) ∧
      ((∃ p ∈ ps, ∀ c, ¬Accepts url p c) → ∃ r, clusters.decode url body = .error (.decode url r))) ∧
    (∀ es w, es ≠ [] → (∀ e ∈ es, ∃ c, Accepts url e c) → Blank w → Bracketed (joined (es ++ [w])) body →
      ∃ r, clusters.decode url body = .error (.decode url r)) ∧
    (∀ es e f es' c d, (∀ p ∈ es ++ es', Piece p) → Accepts url e c → Accepts url f d →
      Bracketed (joined (es ++ (e ++ f) :: es')) body →
        ∃ r, clusters.decode url body = .error (.decode url r)) := by
  refine ⟨fun cs => clusters_decode_iff, ?_, ?_, ?_⟩
  · intro ps hps hne hbody
    exact ⟨fun cs => clusters_decode_pieces hps hne hbody, clusters_decode_rejected hps hne hbody⟩
  · intro es w hne hes hw hbody
    exact clusters_decode_trailing hne hes hw hbody
  · intro es e f es' c d hes he hf hbody
    exact clusters_decode_unseparated hes he hf hbody

end Body
end FlowCluster
