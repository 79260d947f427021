import FlowCluster.Proofs.Text.Basic
import FlowCluster.Proofs.Text.Utf8
import FlowCluster.Settings.Basic
import Mathlib.Tactic.SplitIfs

/-! # The timeout in the environment

Which values of the variable give a timeout, and which one. The value is a number in digits, with white space around it; one
that is no such text, or a number that 64 bits cannot hold, counts for nothing, and the default takes its place. -/

namespace FlowCluster.Settings

open Text

/-- A value that holds a number of any size: it is a text, and between white space at its ends it denotes the number. -/
def Holds (v : Option Bytes) (m : Nat) : Prop :=
  ∃ before count after : String, v = some (Utf8.encode (before ++ count ++ after)) ∧
    Blank.isEmpty before = true ∧ Blank.isEmpty after = true ∧ Count.Denotes count m

/-- A value that gives no timeout. -/
inductive Unusable : Option Bytes → Prop
  | unset : Unusable none
  | garbled {v : Bytes} (h : ∀ s, v ≠ Utf8.encode s) : Unusable (some v)
  | misfit {s : String} (h : ∀ m, ¬Holds (some (Utf8.encode s)) m) : Unusable (some (Utf8.encode s))
  | excessive {v : Option Bytes} {m : Nat} (h : Holds v m) (hm : Count.limit ≤ m) : Unusable v

variable {v : Option Bytes} {s : String} {n m : Nat}

theorem holds_encode_iff : Holds (some (Utf8.encode s)) m ↔ Count.Denotes (Blank.trim s) m := by
  constructor
  · rintro ⟨before, count, after, hs, hbefore, hafter, hcount⟩
    rw [Utf8.encode_injective (Option.some.inj hs), Blank.trim_append count hbefore hafter, hcount.trim_eq]
    exact hcount
  · intro hcount
    obtain ⟨before, after, hs, hbefore, hafter⟩ := Blank.exists_trim s
    exact ⟨before, Blank.trim s, after, congrArg (fun s => some (Utf8.encode s)) hs, hbefore, hafter, hcount⟩

theorem Holds.exists_text (h : Holds v m) : ∃ s, v = some (Utf8.encode s) := by
  obtain ⟨before, count, after, hv, -⟩ := h
  exact ⟨_, hv⟩

theorem Holds.unique (h : Holds v n) (h' : Holds v m) : n = m := by
  obtain ⟨s, rfl⟩ := h.exists_text
  exact (holds_encode_iff.mp h).unique (holds_encode_iff.mp h')

theorem seconds?_eq_some_iff : seconds? s = some n ↔ Holds (some (Utf8.encode s)) n ∧ n < Count.limit := by
  have hread : seconds? s = some n ↔ Count.read (Blank.trim s) = .ok n := by
    rw [seconds?]
    cases Count.read (Blank.trim s) <;> simp [Except.toOption]
  rw [hread, Count.read_eq_ok_iff, Count.writes_iff, holds_encode_iff]

/-- What the settings make of the value of the variable. -/
def given? (v : Option Bytes) : Option Nat := (v.bind Utf8.decode?).bind seconds?

theorem ofEnvironment_timeout (e : Environment) : (ofEnvironment e).timeout =
    .ofSeconds ((given? (e.bytes? "KUBE_PROXY_UPSTREAM_TIMEOUT_SECS")).getD 30) := rfl

theorem given?_encode (s : String) : given? (some (Utf8.encode s)) = seconds? s := by
  rw [given?, Option.bind_some, Utf8.decode?_encode, Option.bind_some]

theorem given?_eq_some_iff : given? v = some n ↔ Holds v n ∧ n < Count.limit := by
  constructor
  · intro h
    obtain ⟨s, hs, hn⟩ := Option.bind_eq_some_iff.mp h
    obtain ⟨b, rfl, hb⟩ := Option.bind_eq_some_iff.mp hs
    rw [Utf8.decode?_eq_some_iff.mp hb]
    exact seconds?_eq_some_iff.mp hn
  · rintro ⟨h, hn⟩
    obtain ⟨s, rfl⟩ := h.exists_text
    rw [given?_encode]
    exact seconds?_eq_some_iff.mpr ⟨h, hn⟩

theorem Unusable.not_given (h : Unusable v) : given? v = none := by
  rw [Option.eq_none_iff_forall_ne_some]
  intro n hn
  obtain ⟨hholds, hlimit⟩ := given?_eq_some_iff.mp hn
  cases h with
  | unset =>
    obtain ⟨s, hs⟩ := hholds.exists_text
    cases hs
  | garbled h =>
    obtain ⟨s, hs⟩ := hholds.exists_text
    exact h s (Option.some.inj hs)
  | misfit h => exact h n hholds
  | excessive h hm => exact absurd hlimit (Nat.not_lt.mpr (hholds.unique h ▸ hm))

/-- A value that is not taken has one of the four faults. -/
theorem unusable_of_not_given (h : given? v = none) : Unusable v := by
  cases v with
  | none => exact .unset
  | some b =>
    -- Each question is asked of what the one before it leaves: is it a text, does the text hold a number, is it too large?
    by_cases htext : ∃ s, b = Utf8.encode s
    · obtain ⟨s, rfl⟩ := htext
      by_cases hholds : ∃ m, Holds (some (Utf8.encode s)) m
      · obtain ⟨m, hm⟩ := hholds
        refine .excessive hm (Nat.not_lt.mp fun hlimit => ?_)
        rw [given?_eq_some_iff.mpr ⟨hm, hlimit⟩] at h
        exact absurd h nofun
      · exact .misfit (not_exists.mp hholds)
    · exact .garbled (not_exists.mp htext)

/-- A number is taken as it is or not at all. -/
theorem given?_of_holds (h : Holds v m) : given? v = if m < Count.limit then some m else none := by
  split_ifs with hm
  · exact given?_eq_some_iff.mpr ⟨h, hm⟩
  · exact (Unusable.excessive h (Nat.not_lt.mp hm)).not_given

theorem getD_given?_lt (v : Option Bytes) : (given? v).getD 30 < Count.limit := by
  cases h : given? v with
  | some k => exact (given?_eq_some_iff.mp h).2
  | none => decide

theorem getD_given?_eq_iff (hn : n < Count.limit) : (given? v).getD 30 = n ↔ Holds v n ∨ n = 30 ∧ Unusable v := by
  cases h : given? v with
  | some k =>
    have hk : Holds v k := (given?_eq_some_iff.mp h).1
    constructor
    · rintro rfl
      exact .inl hk
    · rintro (hheld | ⟨-, hunusable⟩)
      · exact hk.unique hheld
      · cases h.symm.trans hunusable.not_given
  | none =>
    constructor
    · rintro rfl
      exact .inr ⟨rfl, unusable_of_not_given h⟩
    · rintro (hheld | ⟨rfl, -⟩)
      · cases h.symm.trans (given?_eq_some_iff.mpr ⟨hheld, hn⟩)
      · rfl

theorem ofSeconds_inj : Duration.ofSeconds n = .ofSeconds m ↔ n = m :=
  ⟨fun h => congrArg Duration.seconds h, fun h => congrArg _ h⟩

/-- The timeout that the environment gives, for each number of 64 bits: it is the number that the variable holds, or it is the
default and the variable is of no use. So a number is taken as it is or not at all, and one that is written in digits, with
white space around it, is taken. -/
theorem timeout_eq_iff_holds (e : Environment) (n : Nat) (hn : n < Count.limit) :
    ((ofEnvironment e).timeout = .ofSeconds n ↔
      Holds (e.bytes? "KUBE_PROXY_UPSTREAM_TIMEOUT_SECS") n ∨
      n = 30 ∧ Unusable (e.bytes? "KUBE_PROXY_UPSTREAM_TIMEOUT_SECS")) ∧
    (∃ m, m < Count.limit ∧ (ofEnvironment e).timeout = .ofSeconds m) ∧
    (∀ m, Holds (e.bytes? "KUBE_PROXY_UPSTREAM_TIMEOUT_SECS") m →
      (ofEnvironment e).timeout = .ofSeconds (if m < Count.limit then m else 30)) ∧
    (∀ before after, Blank.isEmpty before = true → Blank.isEmpty after = true →
      e.bytes? "KUBE_PROXY_UPSTREAM_TIMEOUT_SECS" = some (Utf8.encode (before ++ toString n ++ after)) →
      (ofEnvironment e).timeout = .ofSeconds n) := by
  rw [ofEnvironment_timeout]
  generalize e.bytes? "KUBE_PROXY_UPSTREAM_TIMEOUT_SECS" = v
  refine ⟨?grammar, ?range, ?exact, ?written⟩
  case grammar => exact ofSeconds_inj.trans (getD_given?_eq_iff hn)
  case range => exact ⟨_, getD_given?_lt v, rfl⟩
  case exact =>
    intro m hm
    rw [given?_of_holds hm]
    split_ifs <;> rfl
  case written =>
    intro before after hbefore hafter hv
    have hholds : Holds v n := ⟨before, toString n, after, hv, hbefore, hafter, Count.denotes_toString n⟩
    rw [given?_of_holds hholds, if_pos hn]
    rfl

/-- An environment that has nothing but a timeout. -/
def waiting (s : String) : Environment := ⟨[("KUBE_PROXY_UPSTREAM_TIMEOUT_SECS", Utf8.encode s)]⟩

theorem holds_signed : Holds (some (Utf8.encode "\u00a0+0060\n")) 60 := by
  have hread : Count.read "+0060" = .ok 60 := by decide +kernel
  exact ⟨"\u00a0", "+0060", "\n", rfl, by decide, by decide, (Count.writes_iff.mp (Count.read_eq_ok_iff.mp hread)).1⟩

theorem holds_limit : Holds (some (Utf8.encode "18446744073709551616")) Count.limit :=
  ⟨"", toString Count.limit, "", rfl, by decide, by decide, Count.denotes_toString Count.limit⟩

/-- The first number that is too large for 64 bits neither wraps to zero nor stops at the largest. -/
theorem timeout_eq_iff_holds_limit :
    60 < Count.limit ∧ Holds ((waiting "\u00a0+0060\n").bytes? "KUBE_PROXY_UPSTREAM_TIMEOUT_SECS") 60 ∧
    (ofEnvironment (waiting "\u00a0+0060\n")).timeout = .ofSeconds 60 ∧
    (ofEnvironment (waiting "18446744073709551616")).timeout = .ofSeconds 30 ∧
    (ofEnvironment (waiting " 60\n")).timeout = .ofSeconds 60 := by
  have hn : 60 < Count.limit := by decide
  have hsigned := (timeout_eq_iff_holds (waiting "\u00a0+0060\n") 60 hn).1.mpr (.inl holds_signed)
  have hlimit := (timeout_eq_iff_holds (waiting "18446744073709551616") 60 hn).2.2.1 _ holds_limit
  have hwritten := (timeout_eq_iff_holds (waiting " 60\n") 60 hn).2.2.2 " " "\n" (by decide) (by decide) rfl
  exact ⟨hn, holds_signed, hsigned, hlimit, hwritten⟩

end FlowCluster.Settings
