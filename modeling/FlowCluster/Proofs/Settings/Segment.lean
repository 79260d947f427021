import FlowCluster.Proofs.Settings.Address
import FlowCluster.Proofs.Url.Read

/-! # Ids that are kept apart

The segment of an id denotes the bytes of the id, so the addresses of one directory tell its ids apart. Where both
directories are at one host, the words in front of the segment tell a flow from a bucket. No segment is taken for a step
up the path, however many of the dots it begins with are escaped. -/

namespace FlowCluster.Settings

open Url

variable {s : Settings} {id id' bucket url : String}

/-- A text that stands for an id in an address. -/
structure StandsFor (seg id : String) : Prop extends IsSegment seg where
  not_one : dots? seg.toList ≠ some 1
  not_two : dots? seg.toList ≠ some 2
  denotes : Percent.decode seg.toList = Text.Utf8.encode id

theorem decode_encodedId (id : String) : Percent.decode (encodedId id).toList = Text.Utf8.encode id := by
  rw [encodedId, String.toList_ofList, Percent.decode_encode]

/-- The segment of an id stays as it is, however many dots the id begins with. -/
theorem kept_encodedId (h : ¬Unfit id) : Kept (encodedId id).toList := by
  have hdenotes (t : String) (ht : id ≠ t) : Percent.decode (encodedId id).toList ≠ Text.Utf8.encode t := by
    rw [decode_encodedId]
    intro he
    exact ht (Text.Utf8.encode_injective he)
  rw [Unfit, not_or, not_or] at h
  apply Kept.of_encoded
  · rw [encodedId, String.toList_ofList]
    exact Percent.encoded_encode _
  · exact hdenotes "." h.2.1
  · exact hdenotes ".." h.2.2

theorem standsFor_encodedId (h : ¬Unfit id) : StandsFor (encodedId id) id where
  toIsSegment := isSegment_encodedId h
  not_one := (kept_encodedId h).not_one
  not_two := (kept_encodedId h).not_two
  denotes := decode_encodedId id

theorem flowUrl_inj (h : s.flowUrl id = .ok url) (h' : s.flowUrl id' = .ok url) : id = id' := by
  obtain ⟨-, hurl⟩ := flowUrl_eq_ok_iff.mp h
  obtain ⟨-, hurl'⟩ := flowUrl_eq_ok_iff.mp h'
  have hsame : encodedId id = encodedId id' := (String.append_right_inj _).mp (hurl.symm.trans hurl')
  exact encodedId_injective hsame

theorem bucketUrl_inj {bucket' : String} (h : s.bucketUrl bucket = .ok url) (h' : s.bucketUrl bucket' = .ok url) :
    bucket = bucket' := by
  obtain ⟨-, hurl⟩ := bucketUrl_eq_ok_iff.mp h
  obtain ⟨-, hurl'⟩ := bucketUrl_eq_ok_iff.mp h'
  have hfront : s.bucketBase ++ encodedId bucket = s.bucketBase ++ encodedId bucket' :=
    (String.append_left_inj _).mp (hurl.symm.trans hurl')
  exact encodedId_injective ((String.append_right_inj _).mp hfront)

/-- At one host, flows and buckets are told apart by the first word of the path. -/
theorem flowUrl_ne_bucketUrl (hhost : s.flowHost = s.clusterHost) (h : s.flowUrl id = .ok url) :
    s.bucketUrl bucket ≠ .ok url := by
  intro h'
  obtain ⟨-, hurl⟩ := flowUrl_eq_ok_iff.mp h
  obtain ⟨-, hurl'⟩ := bucketUrl_eq_ok_iff.mp h'
  have hpaths : (s.scheme ++ "://" ++ s.clusterHost) ++ ("/flows/" ++ encodedId id) =
      (s.scheme ++ "://" ++ s.clusterHost) ++ ("/api/bucket/" ++ encodedId bucket ++ "/clusters") := by
    rw [hurl, flowBase, bucketBase, hhost] at hurl'
    simpa only [String.append_assoc] using hurl'
  have hwords := congrArg String.toList ((String.append_right_inj _).mp hpaths)
  simp at hwords

/-- An id is refused if no segment can carry it, and every other id is one segment of its address, which denotes it. So
two ids never share an address, nor do a flow and a bucket at one host. -/
theorem ids_stay_apart (s : Settings) :
    (∀ id, Unfit id → s.flowUrl id = .error (unfitFailure s.flowHost id) ∧
      s.bucketUrl id = .error (unfitFailure s.clusterHost id)) ∧
    (∀ id, ¬Unfit id → ∃ seg, StandsFor seg id ∧
      s.flowUrl id = .ok (s.scheme ++ "://" ++ s.flowHost ++ "/flows/" ++ seg) ∧
      s.bucketUrl id = .ok (s.scheme ++ "://" ++ s.clusterHost ++ "/api/bucket/" ++ seg ++ "/clusters")) ∧
    (∀ id id' url, s.flowUrl id = .ok url → s.flowUrl id' = .ok url → id = id') ∧
    (∀ bucket bucket' url, s.bucketUrl bucket = .ok url → s.bucketUrl bucket' = .ok url → bucket = bucket') ∧
    (s.flowHost = s.clusterHost → ∀ id bucket url, s.flowUrl id = .ok url → s.bucketUrl bucket ≠ .ok url) := by
  refine ⟨?_, ?_, ?_, ?_, ?_⟩
  · intro id h
    rw [flowUrl_eq, bucketUrl_eq, if_pos h, if_pos h]
    exact ⟨rfl, rfl⟩
  · intro id h
    rw [flowUrl_eq, bucketUrl_eq, if_neg h, if_neg h]
    exact ⟨encodedId id, standsFor_encodedId h, rfl, rfl⟩
  · intro id id' url h h'
    exact flowUrl_inj h h'
  · intro bucket bucket' url h h'
    exact bucketUrl_inj h h'
  · intro hhost id bucket url h
    exact flowUrl_ne_bucketUrl hhost h

end FlowCluster.Settings
