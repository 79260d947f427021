import FlowCluster.Json.Text
import FlowCluster.Proofs.Json.Punctuation
import FlowCluster.Proofs.Text.Utf8

/-! # Spellings of strings

A string has many spellings: a character may stand for itself, and any character may be escaped, by its short escape
or by its number. `Spells` relates what stands between the quotes to the bytes it denotes. `Scans` asks only for the
form, so halves of pairs and bytes that are no text are let through. -/

namespace FlowCluster.Json

/-- Four digits in base sixteen, and their number. -/
def Quad (q : Bytes) (n : Nat) : Prop := ∃ a b c d, q = [a, b, c, d] ∧ hexQuad? a b c d = some n

/-- What may follow a backslash, and the bytes it denotes. -/
inductive Escape : Bytes → Bytes → Prop
  | short {c x : UInt8} : shortEscape? c = some x → Escape [c] [x]
  | numbered {q : Bytes} {n : Nat} :
      Quad q n → isLowSurrogate n = false → isHighSurrogate n = false →
      Escape ('u'.toUInt8 :: q) (Text.Utf8.encodeChar (Char.ofNat n))
  | pair {p q : Bytes} {n m : Nat} :
      Quad p n → isLowSurrogate n = false → isHighSurrogate n = true → Quad q m → isLowSurrogate m = true →
      Escape ('u'.toUInt8 :: (p ++ '\\'.toUInt8 :: 'u'.toUInt8 :: q))
        (Text.Utf8.encodeChar (Char.ofNat (0x10000 + (n - 0xD800) * 0x400 + (m - 0xDC00))))

/-- Bytes that stand for themselves in a string. -/
def Plain (b : UInt8) : Prop := b ≠ '"'.toUInt8 ∧ b ≠ '\\'.toUInt8 ∧ ¬b < 0x20

/-- What stands between the quotes of a string, and the bytes it denotes. -/
inductive Spells : Bytes → Bytes → Prop
  | done : Spells [] []
  | plain {b : UInt8} {e d : Bytes} : Plain b → Spells e d → Spells (b :: e) (b :: d)
  | escape {x y e d : Bytes} : Escape x y → Spells e d → Spells ('\\'.toUInt8 :: (x ++ e)) (y ++ d)

/-- A string in its quotes, and the text it denotes. -/
def Quoted (e : Bytes) (t : String) : Prop :=
  ∃ k, Spells k (Text.Utf8.encode t) ∧ e = '"'.toUInt8 :: (k ++ ['"'.toUInt8])

/-- What may follow a backslash in a string that is passed over. -/
inductive EscapeForm : Bytes → Prop
  | short {c x : UInt8} : shortEscape? c = some x → EscapeForm [c]
  | numbered {q : Bytes} {n : Nat} : Quad q n → EscapeForm ('u'.toUInt8 :: q)

/-- What stands between the quotes of a string that is passed over. -/
inductive Scans : Bytes → Prop
  | done : Scans []
  | plain {b : UInt8} {e : Bytes} : Plain b → Scans e → Scans (b :: e)
  | escape {x e : Bytes} : EscapeForm x → Scans e → Scans ('\\'.toUInt8 :: (x ++ e))

instance (b : UInt8) : Decidable (Plain b) := inferInstanceAs (Decidable (_ ∧ _ ∧ _))

/-- Bytes that stand for themselves spell themselves. -/
theorem Spells.of_plain {e : Bytes} (h : ∀ b ∈ e, Plain b) : Spells e e := by
  induction e with
  | nil => exact .done
  | cons b e ih => exact .plain (h b (List.mem_cons_self ..)) (ih fun c hc => h c (List.mem_cons_of_mem b hc))

private theorem hexQuad_sound {s : Bytes} {n : Nat} {r : Rest s} (h : hexQuad s = .ok (n, r)) :
    ∃ q, Quad q n ∧ s = q ++ r.bytes := by
  unfold hexQuad at h
  split at h
  · next a b c d r' =>
    split at h
    · next m hm =>
      simp only [Except.ok.injEq, Prod.mk.injEq] at h
      obtain ⟨rfl, rfl⟩ := h
      exact ⟨_, ⟨a, b, c, d, rfl, hm⟩, rfl⟩
    · simp at h
  · simp at h

theorem hexQuad_complete {q : Bytes} {n : Nat} (hq : Quad q n) (r : Bytes) :
    ∃ h, hexQuad (q ++ r) = .ok (n, ⟨r, h⟩) := by
  obtain ⟨a, b, c, d, rfl, hn⟩ := hq
  exact ⟨by simp; omega, by simp [hexQuad, hn]⟩

private theorem lowSurrogate_sound {s : Bytes} {m : Nat} {r : Rest s} (h : lowSurrogate s = .ok (m, r)) :
    ∃ q, Quad q m ∧ isLowSurrogate m = true ∧ s = '\\'.toUInt8 :: 'u'.toUInt8 :: (q ++ r.bytes) := by
  unfold lowSurrogate at h
  split at h
  · simp at h
  · next b s' =>
    split_ifs at h with hb
    split at h
    · simp at h
    · next c q =>
      split_ifs at h with hc
      split at h
      · simp at h
      · next n t hn =>
        split_ifs at h with hl
        simp only [Except.ok.injEq, Prod.mk.injEq] at h
        obtain ⟨rfl, rfl⟩ := h
        obtain ⟨p, hp, hs⟩ := hexQuad_sound hn
        rw [not_not] at hb hc
        subst hb hc
        exact ⟨p, hp, hl, congrArg ('\\'.toUInt8 :: 'u'.toUInt8 :: ·) hs⟩

private theorem lowSurrogate_complete {q : Bytes} {m : Nat} (hq : Quad q m) (hm : isLowSurrogate m = true) (r : Bytes) :
    ∃ h, lowSurrogate ('\\'.toUInt8 :: 'u'.toUInt8 :: (q ++ r)) = .ok (m, ⟨r, h⟩) := by
  obtain ⟨h, hh⟩ := hexQuad_complete hq r
  exact ⟨by simp; omega, by simp [lowSurrogate, hh, hm, Rest.widen]⟩

theorem shortEscape_u : shortEscape? 'u'.toUInt8 = none := by decide

private theorem numberedCharacter_sound {s : Bytes} {c : Char} {r : Rest s} (h : numberedCharacter s = .ok (c, r)) :
    ∃ e, Escape ('u'.toUInt8 :: e) (Text.Utf8.encodeChar c) ∧ s = e ++ r.bytes := by
  unfold numberedCharacter at h
  split at h
  · simp at h
  · next n q hq =>
    obtain ⟨x, hx, hs⟩ := hexQuad_sound hq
    split_ifs at h with hl hh
    · split at h
      · simp at h
      · next m t ht =>
        obtain ⟨y, hy, hm, hq'⟩ := lowSurrogate_sound ht
        simp only [Except.ok.injEq, Prod.mk.injEq] at h
        obtain ⟨rfl, rfl⟩ := h
        exact ⟨_, .pair hx (Bool.eq_false_iff.mpr hl) hh hy hm, by simpa using hs.trans (congrArg (x ++ ·) hq')⟩
    · simp only [Except.ok.injEq, Prod.mk.injEq] at h
      obtain ⟨rfl, rfl⟩ := h
      exact ⟨x, .numbered hx (Bool.eq_false_iff.mpr hl) (Bool.eq_false_iff.mpr hh), hs⟩

theorem escape_sound {s d : Bytes} {r : Rest s} (h : escape s = .ok (d, r)) :
    ∃ e, Escape e d ∧ s = e ++ r.bytes := by
  unfold escape at h
  split at h
  · simp at h
  · next b s' =>
    split at h
    · next c hc =>
      simp only [Except.ok.injEq, Prod.mk.injEq] at h
      obtain ⟨rfl, rfl⟩ := h
      exact ⟨_, .short hc, rfl⟩
    · split_ifs at h with hb
      split at h
      · simp at h
      · next c q hq =>
        simp only [Except.ok.injEq, Prod.mk.injEq] at h
        obtain ⟨rfl, rfl⟩ := h
        obtain ⟨e, he, hs⟩ := numberedCharacter_sound hq
        exact ⟨_, he, hb ▸ congrArg (b :: ·) hs⟩

theorem escape_complete {e d : Bytes} (he : Escape e d) (r : Bytes) : ∃ h, escape (e ++ r) = .ok (d, ⟨r, h⟩) := by
  cases he with
  | short hc => exact ⟨by simp, by simp [escape, hc]⟩
  | numbered hq hl hh =>
    obtain ⟨h, hq⟩ := hexQuad_complete hq r
    exact ⟨Nat.lt_succ_of_lt h, by simp [escape, shortEscape_u, numberedCharacter, hq, hl, hh, Rest.widen]⟩
  | @pair p q n m hp hl hh hq hm =>
    obtain ⟨h, hp⟩ := hexQuad_complete hp ('\\'.toUInt8 :: 'u'.toUInt8 :: (q ++ r))
    obtain ⟨h', hq⟩ := lowSurrogate_complete hq hm r
    rw [List.cons_append, List.append_assoc, List.cons_append, List.cons_append]
    exact ⟨by simp; omega, by simp [escape, shortEscape_u, numberedCharacter, hp, hq, hl, hh, Rest.widen]⟩

theorem stringBytes_sound {origin seen s d : Bytes} {h : s.length ≤ origin.length} {r : Rest origin}
    (hs : stringBytes origin seen s h = .ok (d, r)) :
    ∃ e d', Spells e d' ∧ s = e ++ '"'.toUInt8 :: r.bytes ∧ d = seen.reverse ++ d' := by
  fun_induction stringBytes origin seen s h with
  | case1 => simp at hs
  | case2 seen s h =>
    simp only [Except.ok.injEq, Prod.mk.injEq] at hs
    obtain ⟨rfl, rfl⟩ := hs
    exact ⟨[], [], .done, rfl, by simp⟩
  | case3 => simp at hs
  | case4 seen s x q hx _ _ _ ih =>
    obtain ⟨e, d', he, hq, rfl⟩ := ih hs
    obtain ⟨y, hy, hs'⟩ := escape_sound hx
    exact ⟨_, _, .escape hy he, by rw [hs', hq]; simp, by simp⟩
  | case5 => simp at hs
  | case6 seen b s _ hb hb' hc _ ih =>
    obtain ⟨e, d', he, hq, rfl⟩ := ih hs
    exact ⟨_, _, .plain ⟨hb, hb', hc⟩ he, by rw [hq]; rfl, by simp⟩

theorem stringBytes_complete {e d : Bytes} (he : Spells e d) {origin : Bytes} (seen r : Bytes)
    (h : (e ++ '"'.toUInt8 :: r).length ≤ origin.length) :
    ∃ h', stringBytes origin seen (e ++ '"'.toUInt8 :: r) h = .ok (seen.reverse ++ d, ⟨r, h'⟩) := by
  induction he generalizing seen with
  | done =>
    rw [List.nil_append] at h
    exact ⟨h, by simp [stringBytes]⟩
  | @plain b e d hb _ ih =>
    obtain ⟨h', hs⟩ := ih (b :: seen) (Nat.le_of_succ_le h)
    refine ⟨h', ?_⟩
    simp only [List.cons_append] at h ⊢
    rw [stringBytes]
    simp [hb.1, hb.2.1, hb.2.2, hs]
  | @escape x y e d hx _ ih =>
    obtain ⟨h₁, hx⟩ := escape_complete hx (e ++ '"'.toUInt8 :: r)
    obtain ⟨h₂, hs⟩ := ih (y.reverse ++ seen) (by simp at h ⊢; omega)
    refine ⟨h₂, ?_⟩
    simp only [List.cons_append, List.append_assoc] at h ⊢
    have : '\\'.toUInt8 ≠ '"'.toUInt8 := by decide
    rw [stringBytes]
    simp [this, hx, hs]

theorem string_sound {s : Bytes} {t : String} {r : Rest s} (h : string s = .ok (t, r)) :
    ∃ e, Spells e (Text.Utf8.encode t) ∧ s = e ++ '"'.toUInt8 :: r.bytes := by
  unfold string at h
  split at h
  · simp at h
  · next bytes q hq =>
    obtain ⟨e, d, he, hs, rfl⟩ := stringBytes_sound hq
    split at h
    · next u hu =>
      simp only [Except.ok.injEq, Prod.mk.injEq] at h
      obtain ⟨rfl, rfl⟩ := h
      rw [Text.Utf8.decode?_eq_some_iff] at hu
      exact ⟨e, hu ▸ he, hs⟩
    · simp at h

theorem string_complete {e : Bytes} {t : String} (he : Spells e (Text.Utf8.encode t)) (r : Bytes) :
    ∃ h, string (e ++ '"'.toUInt8 :: r) = .ok (t, ⟨r, h⟩) := by
  obtain ⟨h, hs⟩ := stringBytes_complete he [] r (Nat.le_refl _)
  refine ⟨h, ?_⟩
  rw [string, hs]
  simp

private theorem skipEscape_sound {s : Bytes} {r : Rest s} (h : skipEscape s = .ok r) :
    ∃ e, EscapeForm e ∧ s = e ++ r.bytes := by
  unfold skipEscape at h
  split at h
  · simp at h
  · next b s' =>
    split at h
    · next c hc =>
      rw [Except.ok.injEq] at h
      subst h
      exact ⟨_, .short hc, rfl⟩
    · split_ifs at h with hb
      split at h
      · simp at h
      · next n q hq =>
        obtain ⟨x, hx, hs⟩ := hexQuad_sound hq
        rw [Except.ok.injEq] at h
        subst h
        exact ⟨_, .numbered hx, hb ▸ congrArg (b :: ·) hs⟩

private theorem skipEscape_complete {e : Bytes} (he : EscapeForm e) (r : Bytes) :
    ∃ h, skipEscape (e ++ r) = .ok ⟨r, h⟩ := by
  cases he with
  | short hc => exact ⟨by simp, by simp [skipEscape, hc]⟩
  | numbered hq =>
    obtain ⟨h, hq⟩ := hexQuad_complete hq r
    exact ⟨Nat.lt_succ_of_lt h, by simp [skipEscape, shortEscape_u, hq, Rest.widen]⟩

theorem skipString_sound {origin s : Bytes} {h : s.length ≤ origin.length} {r : Rest origin}
    (hs : skipString origin s h = .ok r) : ∃ e, Scans e ∧ s = e ++ '"'.toUInt8 :: r.bytes := by
  fun_induction skipString origin s h with
  | case1 => simp at hs
  | case2 s h =>
    rw [Except.ok.injEq] at hs
    subst hs
    exact ⟨[], .done, rfl⟩
  | case3 => simp at hs
  | case4 s q hq _ _ _ ih =>
    obtain ⟨e, he, hs'⟩ := ih hs
    obtain ⟨x, hx, hs''⟩ := skipEscape_sound hq
    exact ⟨_, .escape hx he, by rw [hs'', hs']; simp⟩
  | case5 => simp at hs
  | case6 b s _ hb hb' hc _ ih =>
    obtain ⟨e, he, hs'⟩ := ih hs
    exact ⟨_, .plain ⟨hb, hb', hc⟩ he, by rw [hs']; rfl⟩

theorem skipString_complete {e : Bytes} (he : Scans e) {origin : Bytes} (r : Bytes)
    (h : (e ++ '"'.toUInt8 :: r).length ≤ origin.length) :
    ∃ h', skipString origin (e ++ '"'.toUInt8 :: r) h = .ok ⟨r, h'⟩ := by
  induction he with
  | done =>
    rw [List.nil_append] at h
    exact ⟨h, by simp [skipString]⟩
  | plain hb _ ih =>
    obtain ⟨h', hs⟩ := ih (Nat.le_of_succ_le h)
    refine ⟨h', ?_⟩
    simp only [List.cons_append] at h ⊢
    rw [skipString]
    simp [hb.1, hb.2.1, hb.2.2, hs]
  | @escape x e hx _ ih =>
    obtain ⟨h₁, hx⟩ := skipEscape_complete hx (e ++ '"'.toUInt8 :: r)
    obtain ⟨h₂, hs⟩ := ih (by simp at h ⊢; omega)
    refine ⟨h₂, ?_⟩
    simp only [List.cons_append, List.append_assoc] at h ⊢
    have : '\\'.toUInt8 ≠ '"'.toUInt8 := by decide
    rw [skipString]
    simp [this, hx, hs]

/-- What is read as a string is passed over as one. -/
theorem Spells.scans {e d : Bytes} (h : Spells e d) : Scans e := by
  induction h with
  | done => exact .done
  | plain hb _ ih => exact .plain hb ih
  | escape hx _ ih =>
    cases hx with
    | short hc => exact .escape (.short hc) ih
    | numbered hq => exact .escape (.numbered hq) ih
    | pair hp _ _ hq =>
      rw [List.cons_append, List.append_assoc, ← List.cons_append]
      exact .escape (.numbered hp) (.escape (.numbered hq) ih)

/-- A string ends at its first quote that is not escaped, whatever follows. -/
theorem Scans.append_inj {e f r q : Bytes} (he : Scans e) (hf : Scans f)
    (h : e ++ '"'.toUInt8 :: r = f ++ '"'.toUInt8 :: q) : e = f := by
  obtain ⟨_, hr⟩ := skipString_complete he r (Nat.le_refl _)
  obtain ⟨_, hq⟩ : ∃ h', skipString (e ++ '"'.toUInt8 :: r) (f ++ '"'.toUInt8 :: q) (by rw [h]) = .ok ⟨q, h'⟩ :=
    skipString_complete hf q _
  simp only [h, hq, Except.ok.injEq, Rest.mk.injEq] at hr
  rw [hr] at h
  exact List.append_cancel_right h

end FlowCluster.Json
