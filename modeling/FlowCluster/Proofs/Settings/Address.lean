import FlowCluster.Proofs.Url.Percent
import FlowCluster.Settings.Address

/-! # Ids as segments of an address

Three ids have no segment. Every other id has one, which is neither empty nor a dot segment and holds nothing that
could end it, so the address of a flow or of a bucket has the shape of its base with one segment more. -/

namespace FlowCluster.Settings

/-- An id that no segment can carry. -/
def Unfit (id : String) : Prop := id = "" ∨ id = "." ∨ id = ".."

instance (id : String) : Decidable (Unfit id) := inferInstanceAs (Decidable (_ ∨ _ ∨ _))

/-- The segment of an id that is not unfit. -/
def encodedId (id : String) : String := String.ofList (Url.Percent.encode (Text.Utf8.encode id))

/-- The failure of an id that no segment can carry, which names the host alone. -/
def unfitFailure (host id : String) : CallFailure :=
  .request host (Text.Quoted.quote id ++ " is not a valid path segment")

/-- A text that stands in an address as exactly one segment, and stays there when dot segments are resolved. -/
structure IsSegment (seg : String) : Prop where
  ne_empty : seg ≠ ""
  ne_dot : seg ≠ "."
  ne_dots : seg ≠ ".."
  encoded : Url.Percent.Encoded seg.toList

theorem segment_eq (host id : String) :
    segment host id = if Unfit id then .error (unfitFailure host id) else .ok (encodedId id) := rfl

theorem flowUrl_eq (s : Settings) (id : String) :
    s.flowUrl id = if Unfit id then .error (unfitFailure s.flowHost id) else .ok (s.flowBase ++ encodedId id) := by
  rw [flowUrl, segment_eq]
  split <;> rfl

theorem bucketUrl_eq (s : Settings) (bucket : String) :
    s.bucketUrl bucket = if Unfit bucket then .error (unfitFailure s.clusterHost bucket)
      else .ok (s.bucketBase ++ encodedId bucket ++ "/clusters") := by
  rw [bucketUrl, segment_eq]
  split <;> rfl

/-- An address of a flow is its base and the segment of the flow. -/
theorem flowUrl_eq_ok_iff {s : Settings} {id url : String} : s.flowUrl id = .ok url ↔ ¬Unfit id ∧ url = s.flowBase ++ encodedId id := by
  rw [flowUrl_eq]
  by_cases h : Unfit id
  · simp [h]
  · simp [h, eq_comm]

theorem bucketUrl_eq_ok_iff {s : Settings} {bucket url : String} :
    s.bucketUrl bucket = .ok url ↔ ¬Unfit bucket ∧ url = s.bucketBase ++ encodedId bucket ++ "/clusters" := by
  rw [bucketUrl_eq]
  by_cases h : Unfit bucket
  · simp [h]
  · simp [h, eq_comm]

theorem encodedId_injective : Function.Injective encodedId := by
  intro id id' h
  exact Text.Utf8.encode_injective (Url.Percent.encode_injective (String.ofList_injective h))

theorem isSegment_encodedId {id : String} (h : ¬Unfit id) : IsSegment (encodedId id) := by
  have encodes {t : String} (ht : encodedId t = t) (hid : id ≠ t) : encodedId id ≠ t := by
    intro he
    exact hid (encodedId_injective (he.trans ht.symm))
  rw [Unfit, not_or, not_or] at h
  refine ⟨encodes (by decide) h.1, encodes (by decide) h.2.1, encodes (by decide) h.2.2, ?_⟩
  rw [encodedId, String.toList_ofList]
  exact Url.Percent.encoded_encode _

/-- The address of a bucket is its base, one segment, and the word that ends it. -/
theorem exists_segment_of_bucketUrl {s : Settings} {bucket url : String} (h : s.bucketUrl bucket = .ok url) :
    ∃ seg, IsSegment seg ∧ url = s.scheme ++ "://" ++ s.clusterHost ++ "/api/bucket/" ++ seg ++ "/clusters" := by
  obtain ⟨hfit, rfl⟩ := bucketUrl_eq_ok_iff.mp h
  exact ⟨encodedId bucket, isSegment_encodedId hfit, rfl⟩

end FlowCluster.Settings
