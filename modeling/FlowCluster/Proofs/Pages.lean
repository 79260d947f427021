import FlowCluster.Proofs.Lookup

/-! # One page in place of another

What becomes of a lookup if one page is put in place of another. It sends the same whatever the pages are, and where
they read the same it brings the same. -/

namespace FlowCluster

variable {ρ α : Type}

namespace Transport

/-- Two transports that differ in nothing but the body that they bring, with status 200, from one address. -/
structure DifferAt (url : String) (body body' : Bytes) (t t' : Transport ρ) : Prop where
  elsewhere : ∀ r, r.url ≠ url → t.fetch r = t'.fetch r
  there : ∀ r, r.url = url → ∃ own own' seen events, t.fetch r = ⟨.ok ⟨own, 200, some body⟩, seen, events⟩ ∧
    t'.fetch r = ⟨.ok ⟨own', 200, some body'⟩, seen, events⟩

/-- One directory, with one page or the other put in place at an address. -/
theorem DifferAt.of_publish (d : Directory) (url : String) (body body' : Bytes) :
    DifferAt url body body' (d.publish url (.answer 200 (some body) none)).transport
      (d.publish url (.answer 200 (some body') none)).transport := by
  have hfetch (b : Bytes) (r : Request) : (d.publish url (.answer 200 (some b) none)).transport.fetch r =
      ⟨((d.publish url (.answer 200 (some b) none)).answer r.url).1, [r],
        ((d.publish url (.answer 200 (some b) none)).answer r.url).2⟩ := rfl
  constructor
  · intro r hr
    rw [hfetch, hfetch, d.answer_publish_of_ne hr, d.answer_publish_of_ne hr]
  · intro r hr
    refine ⟨url, url, [r], [], ?_, ?_⟩
    · rw [hfetch, hr, d.answer_publish]
      rfl
    · rw [hfetch, hr, d.answer_publish]
      rfl

variable {url : String} {body body' : Bytes} {t t' : Transport ρ}

theorem DifferAt.fetch_seen (h : DifferAt url body body' t t') (r : Request) :
    (t.fetch r).seen = (t'.fetch r).seen := by
  by_cases hr : r.url = url
  · obtain ⟨own, own', seen, events, ht, ht'⟩ := h.there r hr
    rw [ht, ht']
  · rw [h.elsewhere r hr]

/-- What the pages are read as does not depend on which of them it is, if they are read the same. -/
theorem DifferAt.fitRecord_eq (h : DifferAt url body body' t t') {decoder : Json.Decoder α}
    (hread : Json.read decoder body = Json.read decoder body') (r : Request) (u : String) :
    Lookup.fitRecord decoder u (t.fetch r).result = Lookup.fitRecord decoder u (t'.fetch r).result := by
  by_cases hr : r.url = url
  · obtain ⟨own, own', seen, events, ht, ht'⟩ := h.there r hr
    have hfit (own : String) (b : Bytes) :
        Lookup.fitRecord decoder u (.ok ⟨own, 200, some b⟩) = (Json.read decoder b).mapError (.decode u) := rfl
    rw [ht, ht', hfit, hfit, hread]
  · rw [h.elsewhere r hr]

variable {s : Settings}

theorem DifferAt.clusters_result (h : DifferAt url body body' t t')
    (hread : Json.read (Json.list Cluster.decoder) body = Json.read (Json.list Cluster.decoder) body')
    (s : Settings) (bucket : String) :
    (Resolution.clusters s t bucket).result = (Resolution.clusters s t' bucket).result := by
  simp only [Resolution.clusters_result, Lookup.clusters_result, h.fitRecord_eq hread]

theorem DifferAt.clusters_seen (h : DifferAt url body body' t t') (s : Settings) (bucket : String) :
    (Resolution.clusters s t bucket).seen = (Resolution.clusters s t' bucket).seen := by
  simp only [Resolution.clusters_seen, Lookup.clusters_seen, h.fetch_seen]

theorem DifferAt.flow_seen (h : DifferAt url body body' t t') (s : Settings) (apiKey id : String) :
    (Resolution.flow s t apiKey id).seen = (Resolution.flow s t' apiKey id).seen := by
  simp only [Resolution.flow_seen, Lookup.flow_seen, h.fetch_seen]

/-- Where both bring a flow of one bucket, and lists of its clusters that read the same, a resolution ends the same. -/
theorem DifferAt.resolve (h : DifferAt url body body' t t')
    (hread : Json.read (Json.list Cluster.decoder) body = Json.read (Json.list Cluster.decoder) body')
    {apiKey id : String} {f f' : Flow} (hf : (Resolution.flow s t apiKey id).result = .ok f)
    (hf' : (Resolution.flow s t' apiKey id).result = .ok f') (hbucket : f.bucket = f'.bucket) (identifier : String) :
    (Resolution.resolve s t apiKey id identifier).result = (Resolution.resolve s t' apiKey id identifier).result ∧
      (Resolution.resolve s t apiKey id identifier).seen = (Resolution.resolve s t' apiKey id identifier).seen := by
  have hresult : (Resolution.bucketClusters s t apiKey id).result = (Resolution.bucketClusters s t' apiKey id).result := by
    rw [Resolution.bucketClusters_result, Resolution.bucketClusters_result, hf, hf']
    change (f.bucket, ·) <$> (Resolution.clusters s t f.bucket).result =
      (f'.bucket, ·) <$> (Resolution.clusters s t' f'.bucket).result
    rw [hbucket, h.clusters_result hread]
  refine ⟨?_, ?_⟩
  · rw [Resolution.resolve_result, Resolution.resolve_result, hresult]
  · rw [Resolution.resolve_seen, Resolution.resolve_seen, Resolution.bucketClusters_seen,
      Resolution.bucketClusters_seen, h.flow_seen, hf, hf']
    simp only [hbucket, h.clusters_seen]

end Transport
end FlowCluster
