import FlowCluster.Proofs.Duration
import FlowCluster.Proofs.Passwords
import FlowCluster.Proofs.Text.Shown

/-! # What is shown hides the secret and nothing else

Settings are shown without their key and clusters without their password. Each value that is shown can be told from
every other one and from what follows it, so the texts of two settings are the same only if no more than the keys
differ, and those of two clusters only if no more than the passwords do. A redacted copy tells one thing more: whether
there is a password. -/

namespace FlowCluster

open Text

namespace Settings

/-- Settings that agree on all but the key. -/
structure SameButKey (s s' : Settings) : Prop where
  flowHost : s.flowHost = s'.flowHost
  clusterHost : s.clusterHost = s'.clusterHost
  scheme : s.scheme = s'.scheme
  timeout : s.timeout = s'.timeout

variable (s s' : Settings)

theorem listing_alike : s.listing.Alike s'.listing where
  title := rfl
  entries := by
    refine .cons ⟨rfl, Quoted.separable_quote _ _⟩ <| .cons ⟨rfl, Quoted.separable_quote _ _⟩ <|
      .cons ⟨rfl, separable_self _⟩ <| .cons ⟨rfl, Quoted.separable_quote _ _⟩ <|
      .cons ⟨rfl, Duration.separable_text _ _⟩ .nil

theorem listing_entries_eq_iff : s.listing.entries = s'.listing.entries ↔ SameButKey s s' := by
  simp only [listing, List.cons.injEq, Prod.mk.injEq, Quoted.quote_injective.eq_iff,
    Duration.text_injective.eq_iff, true_and, and_true]
  exact ⟨fun ⟨hflow, hcluster, hscheme, htimeout⟩ => ⟨hflow, hcluster, hscheme, htimeout⟩,
    fun h => ⟨h.flowHost, h.clusterHost, h.scheme, h.timeout⟩⟩

/-- Settings are shown alike, on one line or on many, where they are the same but for the key. -/
theorem listing_hides_key :
    (s.listing.inline = s'.listing.inline ↔ SameButKey s s') ∧
    (s.listing.indented = s'.listing.indented ↔ SameButKey s s') := by
  have halike := listing_alike s s'
  exact ⟨halike.inline_eq_iff.trans (listing_entries_eq_iff s s'),
    halike.indented_eq_iff.trans (listing_entries_eq_iff s s')⟩

end Settings

namespace Cluster

/-- Clusters that agree on all but the password. -/
structure SameButPassword (a b : Cluster) : Prop where
  identifier : a.identifier = b.identifier
  address : a.address = b.address
  version : a.version = b.version
  username : a.username = b.username
  kind : a.kind = b.kind

variable (a b : Cluster)

theorem sameButPassword_iff : SameButPassword a b ↔ a.withoutPassword = b.withoutPassword := by
  simp only [withoutPassword, Cluster.mk.injEq, true_and]
  constructor
  · intro h
    exact ⟨h.identifier, h.address, h.version, h.username, h.kind⟩
  · rintro ⟨hidentifier, haddress, hversion, husername, hkind⟩
    exact ⟨hidentifier, haddress, hversion, husername, hkind⟩

theorem listing_alike : a.listing.Alike b.listing where
  title := rfl
  entries := by
    refine .cons ⟨rfl, Quoted.separable_quote _ _⟩ <| .cons ⟨rfl, Quoted.separable_quote _ _⟩ <|
      .cons ⟨rfl, Quoted.separable_quote _ _⟩ <| .cons ⟨rfl, Quoted.separable_quote _ _⟩ <|
      .cons ⟨rfl, separable_self _⟩ <| .cons ⟨rfl, Quoted.separable_quote _ _⟩ .nil

theorem listing_entries_eq_iff : a.listing.entries = b.listing.entries ↔ SameButPassword a b := by
  rw [sameButPassword_iff]
  simp [listing, withoutPassword, Quoted.quote_injective.eq_iff]

theorem redaction_ne_empty : redaction ≠ "" := by decide

theorem redacted_password_eq_empty : a.redacted.password = "" ↔ a.password = "" := by
  unfold redacted
  split
  · rfl
  · next h => exact iff_of_false redaction_ne_empty h

theorem withoutPassword_redacted : a.redacted.withoutPassword = a.withoutPassword := by
  unfold redacted
  split <;> rfl

theorem redacted_idem : a.redacted.redacted = a.redacted := by
  conv_lhs => rw [redacted]
  split
  · rfl
  · next h =>
    rw [redacted_password_eq_empty] at h
    rw [redacted, if_neg h]

/-- Of the password no more is left than whether there is one. -/
theorem redacted_eq_iff :
    a.redacted = b.redacted ↔ a.withoutPassword = b.withoutPassword ∧ (a.password = "" ↔ b.password = "") := by
  refine ⟨fun h => ⟨?_, ?_⟩, fun ⟨hrest, hpassword⟩ => redacted_eq hrest hpassword⟩
  · rw [← withoutPassword_redacted a, h, withoutPassword_redacted]
  · rw [← redacted_password_eq_empty a, h, redacted_password_eq_empty]

theorem isBlank_iff : a.isBlank ↔ a.withoutPassword = blank ∧ a.password = "" := by
  rw [isBlank, beq_iff_eq]
  constructor
  · rintro rfl
    exact ⟨rfl, rfl⟩
  · rintro ⟨hrest, hpassword⟩
    rw [← hrest, withoutPassword, ← hpassword]

theorem isBlank_redacted : a.redacted.isBlank ↔ a.isBlank := by
  rw [isBlank_iff, isBlank_iff, withoutPassword_redacted, redacted_password_eq_empty]

/-- Clusters are shown alike, on one line or on many, where they are the same but for the password. A redacted copy tells
one thing more, whether there is a password; it is left alone when it is redacted again, and it is blank where the
cluster is. -/
theorem shown_hides_password :
    (a.listing.inline = b.listing.inline ↔ SameButPassword a b) ∧
    (a.listing.indented = b.listing.indented ↔ SameButPassword a b) ∧
    (a.redacted = b.redacted ↔ SameButPassword a b ∧ (a.password = "" ↔ b.password = "")) ∧
    a.redacted.redacted = a.redacted ∧
    SameButPassword a.redacted a ∧
    (a.redacted.isBlank ↔ a.isBlank) := by
  have halike := listing_alike a b
  refine ⟨?inline, ?indented, ?redacted, redacted_idem a, ?same, isBlank_redacted a⟩
  case inline => exact halike.inline_eq_iff.trans (listing_entries_eq_iff a b)
  case indented => exact halike.indented_eq_iff.trans (listing_entries_eq_iff a b)
  case redacted => rw [redacted_eq_iff, sameButPassword_iff]
  case same => exact (sameButPassword_iff _ _).mpr (withoutPassword_redacted a)

/-- A value that imitates the rest of a listing is still told from that rest. -/
example :
    ({ blank with identifier := "a\", address: \"b" } : Cluster).listing.inline ≠
      ({ blank with identifier := "a", address := "b" } : Cluster).listing.inline := by
  decide +kernel

end Cluster
end FlowCluster
