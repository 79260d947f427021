import FlowCluster.Text.Utf8
import Mathlib.Tactic.SplitIfs

/-! # Reading back encoded characters

An encoded character is a piece of its own, whatever follows it, and a piece that is a character is the encoding of
that character. So bytes are read strictly as a text exactly if they are its encoding, and no two texts share one. -/

namespace FlowCluster.Text.Utf8

private theorem toNat_toUInt8 {n : Nat} (h : n < 256) : n.toUInt8.toNat = n := by
  simp; omega

private theorem lead_two {b : UInt8} (h : 0xC2 ≤ b.toNat) (h' : b.toNat < 0xE0) :
    lead? b = some ⟨b.toNat - 0xC0, 1, 0x80, 0xBF⟩ := by
  have h₁ : ¬b < 0xC2 := by simpa [UInt8.lt_iff_toNat_lt] using h
  have h₂ : b < 0xE0 := by simpa [UInt8.lt_iff_toNat_lt] using h'
  simp [lead?, h₁, h₂]

/-- The second byte of three keeps out what two bytes can carry, and the surrogates. -/
private theorem lead_three {b : UInt8} (h : 0xE0 ≤ b.toNat) (h' : b.toNat < 0xF0) :
    ∃ l, lead? b = some l ∧ l.bits = b.toNat - 0xE0 ∧ l.following = 2 ∧ ∀ c, l.low ≤ c ∧ c ≤ l.high ↔
      0x80 ≤ c.toNat ∧ c.toNat ≤ 0xBF ∧ 0x20 ≤ l.bits * 64 + (c.toNat - 0x80) ∧
        (l.bits * 64 + (c.toNat - 0x80) < 0x360 ∨ 0x380 ≤ l.bits * 64 + (c.toNat - 0x80)) := by
  by_cases h₁ : b = 0xE0
  · subst h₁
    refine ⟨_, rfl, rfl, rfl, fun c => ?_⟩
    simp only [UInt8.le_iff_toNat_le, UInt8.reduceToNat]
    omega
  by_cases h₂ : b = 0xED
  · subst h₂
    refine ⟨_, rfl, rfl, rfl, fun c => ?_⟩
    simp only [UInt8.le_iff_toNat_le, UInt8.reduceToNat]
    omega
  simp only [← UInt8.toNat_inj, UInt8.reduceToNat] at h₁ h₂
  have h₃ : lead? b = some ⟨b.toNat - 0xE0, 2, 0x80, 0xBF⟩ := by
    simp only [lead?, UInt8.lt_iff_toNat_lt, ← UInt8.toNat_inj, UInt8.reduceToNat]
    split_ifs <;> first | omega | rfl
  refine ⟨_, h₃, rfl, rfl, fun c => ?_⟩
  simp only [UInt8.le_iff_toNat_le, UInt8.reduceToNat]
  omega

/-- The second byte of four keeps out what three bytes can carry, and numbers past the last character. -/
private theorem lead_four {b : UInt8} (h : 0xF0 ≤ b.toNat) (h' : b.toNat < 0xF5) :
    ∃ l, lead? b = some l ∧ l.bits = b.toNat - 0xF0 ∧ l.following = 3 ∧ ∀ c, l.low ≤ c ∧ c ≤ l.high ↔
      0x80 ≤ c.toNat ∧ c.toNat ≤ 0xBF ∧ 0x10 ≤ l.bits * 64 + (c.toNat - 0x80) ∧
        l.bits * 64 + (c.toNat - 0x80) < 0x110 := by
  by_cases h₁ : b = 0xF0
  · subst h₁
    refine ⟨_, rfl, rfl, rfl, fun c => ?_⟩
    simp only [UInt8.le_iff_toNat_le, UInt8.reduceToNat]
    omega
  by_cases h₂ : b = 0xF4
  · subst h₂
    refine ⟨_, rfl, rfl, rfl, fun c => ?_⟩
    simp only [UInt8.le_iff_toNat_le, UInt8.reduceToNat]
    omega
  simp only [← UInt8.toNat_inj, UInt8.reduceToNat] at h₁ h₂
  have h₃ : lead? b = some ⟨b.toNat - 0xF0, 3, 0x80, 0xBF⟩ := by
    simp only [lead?, UInt8.lt_iff_toNat_lt, ← UInt8.toNat_inj, UInt8.reduceToNat]
    split_ifs <;> first | omega | rfl
  refine ⟨_, h₃, rfl, rfl, fun c => ?_⟩
  simp only [UInt8.le_iff_toNat_le, UInt8.reduceToNat]
  omega

private theorem lead_none {b : UInt8} (h : b.toNat < 0xC2 ∨ 0xF5 ≤ b.toNat) : lead? b = none := by
  simp only [lead?, UInt8.lt_iff_toNat_lt, ← UInt8.toNat_inj, UInt8.reduceToNat]
  split_ifs <;> first | omega | rfl

@[simp] theorem continuation_zero (n : Nat) (r : Bytes) : continuation 0 n r = (some (Char.ofNat n), r) := rfl

private theorem continuation_cons (k n : Nat) (b : UInt8) (r : Bytes) (h : 0x80 ≤ b.toNat) (h' : b.toNat ≤ 0xBF) :
    continuation (k + 1) n (b :: r) = continuation k (n * 64 + (b.toNat - 0x80)) r := by
  simp [continuation, UInt8.le_iff_toNat_le, h, h']

private theorem piece_lead {b c : UInt8} {r : Bytes} {l : Lead} (hb : 0x80 ≤ b.toNat) (h : lead? b = some l)
    (hc : l.low ≤ c ∧ c ≤ l.high) :
    piece b (c :: r) = continuation (l.following - 1) (l.bits * 64 + (c.toNat - 0x80)) r := by
  have hb' : ¬b < 0x80 := by simpa [UInt8.lt_iff_toNat_lt] using hb
  simp [piece, hb', h, hc]

private theorem piece_encodeChar (c : Char) :
    ∃ b r, encodeChar c = b :: r ∧ ∀ q, piece b (r ++ q) = (some c, q) := by
  have hv := c.valid
  have hc : c.val.toNat = c.toNat := rfl
  simp only [UInt32.isValidChar, Nat.isValidChar, hc] at hv
  unfold encodeChar
  generalize hn : c.toNat = n at *
  have hcn : Char.ofNat n = c := by rw [← hn, Char.ofNat_toNat]
  simp only
  split_ifs with h₁ h₂ h₃
  · refine ⟨_, _, rfl, fun q => ?_⟩
    simp [piece, UInt8.lt_iff_toNat_lt, toNat_toUInt8 (n := n) (by omega), h₁, hcn]
  · have h₄ := toNat_toUInt8 (n := 0xC0 + n / 64) (by omega)
    have h₅ := toNat_toUInt8 (n := 0x80 + n % 64) (by omega)
    refine ⟨_, _, rfl, fun q => ?_⟩
    have hl := lead_two (b := (0xC0 + n / 64).toUInt8) (by omega) (by omega)
    rw [List.cons_append, piece_lead (by omega) hl (by simp only [UInt8.le_iff_toNat_le, h₅, UInt8.reduceToNat]; omega)]
    have : (0xC0 + n / 64 - 0xC0) * 64 + (0x80 + n % 64 - 0x80) = n := by omega
    simp only [h₄, h₅, this, Nat.sub_self, continuation_zero, hcn, List.nil_append]
  · have h₄ := toNat_toUInt8 (n := 0xE0 + n / 4096) (by omega)
    have h₅ := toNat_toUInt8 (n := 0x80 + n / 64 % 64) (by omega)
    have h₆ := toNat_toUInt8 (n := 0x80 + n % 64) (by omega)
    refine ⟨_, _, rfl, fun q => ?_⟩
    obtain ⟨l, hl, hb, hf, hr⟩ := lead_three (b := (0xE0 + n / 4096).toUInt8) (by omega) (by omega)
    rw [List.cons_append, piece_lead (by omega) hl (by rw [hr]; omega), hf, List.cons_append,
      continuation_cons _ _ _ _ (by omega) (by omega)]
    have : ((0xE0 + n / 4096 - 0xE0) * 64 + (0x80 + n / 64 % 64 - 0x80)) * 64 + (0x80 + n % 64 - 0x80) = n := by omega
    simp only [hb, h₄, h₅, h₆, this, continuation_zero, hcn, List.nil_append]
  · have h₄ := toNat_toUInt8 (n := 0xF0 + n / 262144) (by omega)
    have h₅ := toNat_toUInt8 (n := 0x80 + n / 4096 % 64) (by omega)
    have h₆ := toNat_toUInt8 (n := 0x80 + n / 64 % 64) (by omega)
    have h₇ := toNat_toUInt8 (n := 0x80 + n % 64) (by omega)
    refine ⟨_, _, rfl, fun q => ?_⟩
    obtain ⟨l, hl, hb, hf, hr⟩ := lead_four (b := (0xF0 + n / 262144).toUInt8) (by omega) (by omega)
    rw [List.cons_append, piece_lead (by omega) hl (by rw [hr]; omega), hf, List.cons_append,
      continuation_cons _ _ _ _ (by omega) (by omega), List.cons_append, continuation_cons _ _ _ _ (by omega) (by omega)]
    have : (((0xF0 + n / 262144 - 0xF0) * 64 + (0x80 + n / 4096 % 64 - 0x80)) * 64 + (0x80 + n / 64 % 64 - 0x80)) * 64 +
        (0x80 + n % 64 - 0x80) = n := by omega
    simp only [hb, h₄, h₅, h₆, h₇, this, continuation_zero, hcn, List.nil_append]

theorem toNat_ofNat {n : Nat} (h : n.isValidChar) : (Char.ofNat n).toNat = n := by
  rw [Char.ofNat, dif_pos h]
  rfl

private theorem continuation_some {k n : Nat} {s q : Bytes} {c : Char}
    (h : continuation (k + 1) n s = (some c, q)) :
    ∃ b r, s = b :: r ∧ 0x80 ≤ b.toNat ∧ b.toNat ≤ 0xBF ∧
      continuation k (n * 64 + (b.toNat - 0x80)) r = (some c, q) := by
  cases s with
  | nil => simp [continuation] at h
  | cons b r =>
    simp only [continuation] at h
    split_ifs at h with hb
    · exact ⟨b, r, rfl, hb.1, hb.2, h⟩
    · simp at h

private theorem piece_some {b : UInt8} {s q : Bytes} {c : Char} (h : piece b s = (some c, q)) :
    (b.toNat < 0x80 ∧ Char.ofNat b.toNat = c ∧ s = q) ∨ 0x80 ≤ b.toNat ∧ ∃ l d r, lead? b = some l ∧ s = d :: r ∧
      (l.low ≤ d ∧ d ≤ l.high) ∧
      continuation (l.following - 1) (l.bits * 64 + (d.toNat - 0x80)) r = (some c, q) := by
  unfold piece at h
  split_ifs at h with hb
  · simp only [Prod.mk.injEq, Option.some.injEq] at h
    exact .inl ⟨hb, h⟩
  · refine .inr ⟨Nat.le_of_not_lt hb, ?_⟩
    split at h
    · simp at h
    · next l hl =>
      split at h
      · simp at h
      · next d r =>
        split_ifs at h with hd
        · exact ⟨l, d, r, hl, rfl, hd, h⟩
        · simp at h

private theorem encodeChar_two {n : Nat} (h : 0x80 ≤ n) (h' : n < 0x800) :
    encodeChar (Char.ofNat n) = [(0xC0 + n / 64).toUInt8, (0x80 + n % 64).toUInt8] := by
  have hv : (Char.ofNat n).toNat = n := toNat_ofNat (.inl (by omega))
  simp only [encodeChar, hv]
  split_ifs <;> first | omega | rfl

private theorem encodeChar_three {n : Nat} (h : 0x800 ≤ n) (h' : n < 0x10000) (hv : n.isValidChar) :
    encodeChar (Char.ofNat n) =
      [(0xE0 + n / 4096).toUInt8, (0x80 + n / 64 % 64).toUInt8, (0x80 + n % 64).toUInt8] := by
  simp only [encodeChar, toNat_ofNat hv]
  split_ifs <;> first | omega | rfl

private theorem encodeChar_four {n : Nat} (h : 0x10000 ≤ n) (hv : n.isValidChar) :
    encodeChar (Char.ofNat n) =
      [(0xF0 + n / 262144).toUInt8, (0x80 + n / 4096 % 64).toUInt8, (0x80 + n / 64 % 64).toUInt8,
        (0x80 + n % 64).toUInt8] := by
  simp only [encodeChar, toNat_ofNat hv]
  split_ifs <;> first | omega | rfl

private theorem eq_toUInt8 {b : UInt8} {n : Nat} (h : b.toNat = n) : b = n.toUInt8 := by
  subst h
  simp

private theorem eq_encodeChar_append {b : UInt8} {s q : Bytes} {c : Char} (h : piece b s = (some c, q)) :
    b :: s = encodeChar c ++ q := by
  have hb := b.toNat_lt
  -- One case for each number of bytes that the first one announces.
  rcases piece_some h with ⟨h₁, rfl, rfl⟩ | ⟨h₁, l, d, r, hl, rfl, hd, h⟩
  · have hv : (Char.ofNat b.toNat).toNat = b.toNat := toNat_ofNat (.inl (by omega))
    simp [encodeChar, hv, h₁]
  rcases Nat.lt_or_ge b.toNat 0xC2 with h₂ | h₂
  · simp [lead_none (.inl h₂)] at hl
  rcases Nat.lt_or_ge b.toNat 0xE0 with h₃ | h₃
  · simp only [lead_two h₂ h₃, Option.some.injEq] at hl
    subst hl
    simp only [UInt8.le_iff_toNat_le, UInt8.reduceToNat] at hd
    simp only [Nat.sub_self, continuation_zero, Prod.mk.injEq, Option.some.injEq] at h
    obtain ⟨rfl, rfl⟩ := h
    rw [encodeChar_two (by omega) (by omega), List.cons_append, List.cons_append, List.nil_append, List.cons.injEq,
      List.cons.injEq]
    exact ⟨eq_toUInt8 (by omega), eq_toUInt8 (by omega), rfl⟩
  rcases Nat.lt_or_ge b.toNat 0xF0 with h₄ | h₄
  · obtain ⟨m, hm, hbits, hf, hr⟩ := lead_three h₃ h₄
    obtain rfl : m = l := by simpa [hm] using hl
    rw [hr] at hd
    rw [hf, hbits] at h
    rw [hbits] at hd
    obtain ⟨e, r, rfl, he, he', h⟩ := continuation_some h
    simp only [continuation_zero, Prod.mk.injEq, Option.some.injEq] at h
    obtain ⟨rfl, rfl⟩ := h
    rw [encodeChar_three (by omega) (by omega) (by simp only [Nat.isValidChar]; omega)]
    simp only [List.cons_append, List.nil_append, List.cons.injEq]
    exact ⟨eq_toUInt8 (by omega), eq_toUInt8 (by omega), eq_toUInt8 (by omega), trivial⟩
  rcases Nat.lt_or_ge b.toNat 0xF5 with h₅ | h₅
  · obtain ⟨m, hm, hbits, hf, hr⟩ := lead_four h₄ h₅
    obtain rfl : m = l := by simpa [hm] using hl
    rw [hr] at hd
    rw [hf, hbits] at h
    rw [hbits] at hd
    obtain ⟨e, r, rfl, he, he', h⟩ := continuation_some h
    obtain ⟨f, r, rfl, hf, hf', h⟩ := continuation_some h
    simp only [continuation_zero, Prod.mk.injEq, Option.some.injEq] at h
    obtain ⟨rfl, rfl⟩ := h
    rw [encodeChar_four (by omega) (by simp only [Nat.isValidChar]; omega)]
    simp only [List.cons_append, List.nil_append, List.cons.injEq]
    exact ⟨eq_toUInt8 (by omega), eq_toUInt8 (by omega), eq_toUInt8 (by omega), eq_toUInt8 (by omega), trivial⟩
  · simp [lead_none (.inr h₅)] at hl

/-- Continuation bytes that do not suffice are all taken, and for nothing. -/
private theorem continuation_cut {k n : Nat} {s r q : Bytes} {c : Char} (h : continuation k n (r ++ q) = (some c, q))
    (hs : s <+: r) (hne : s ≠ r) : continuation k n s = (none, []) := by
  induction k generalizing n s r with
  | zero =>
    simp only [continuation_zero, Prod.mk.injEq, List.append_left_eq_self] at h
    rw [h.2, List.prefix_nil] at hs
    exact absurd (hs.trans h.2.symm) hne
  | succ k ih =>
    cases s with
    | nil => rfl
    | cons b s =>
      obtain ⟨r, rfl, hrest⟩ := List.cons_prefix_iff.mp hs
      obtain ⟨b', r', hr, hlow, hhigh, h⟩ := continuation_some h
      rw [List.cons_append, List.cons.injEq] at hr
      obtain ⟨rfl, rfl⟩ := hr
      rw [continuation_cons _ _ _ _ hlow hhigh]
      exact ih h hrest fun he => hne (congrArg _ he)

/-- Of a piece that is a character, what stands before a cut is one piece that is none. -/
private theorem piece_cut {b : UInt8} {s r q : Bytes} {c : Char} (h : piece b (r ++ q) = (some c, q)) (hs : s <+: r)
    (hne : s ≠ r) : piece b s = (none, []) := by
  rcases piece_some h with ⟨-, -, hr⟩ | ⟨hb, l, d, r', hl, hr, hd, h⟩
  · rw [List.append_left_eq_self] at hr
    rw [hr, List.prefix_nil] at hs
    exact absurd (hs.trans hr.symm) hne
  · cases s with
    | nil =>
      have hb' : ¬b < 0x80 := by simpa [UInt8.lt_iff_toNat_lt] using hb
      simp [piece, hb', hl]
    | cons d' s =>
      obtain ⟨r, rfl, hrest⟩ := List.cons_prefix_iff.mp hs
      rw [List.cons_append, List.cons.injEq] at hr
      obtain ⟨rfl, rfl⟩ := hr
      rw [piece_lead hb hl hd]
      exact continuation_cut h hrest fun he => hne (congrArg _ he)

/-- Some of the bytes of a character, from the first on, but not all of them. -/
theorem pieces_cut_encodeChar {c : Char} {s : Bytes} (hs : s <+: encodeChar c) (hne : s ≠ encodeChar c) (hs' : s ≠ []) :
    pieces s = [none] := by
  obtain ⟨b, r, he, hp⟩ := piece_encodeChar c
  cases s with
  | nil => exact absurd rfl hs'
  | cons b' s =>
    rw [he, List.cons_prefix_cons] at hs
    obtain ⟨rfl, hrest⟩ := hs
    rw [pieces_cons, piece_cut (hp []) hrest fun hsame => hne (he ▸ congrArg _ hsame), pieces_nil]

theorem pieces_encodeChar_append (c : Char) (r : Bytes) : pieces (encodeChar c ++ r) = some c :: pieces r := by
  obtain ⟨b, s, he, hp⟩ := piece_encodeChar c
  rw [he, List.cons_append, pieces_cons, hp]

private theorem pieces_flatMap_append (cs : List Char) (r : Bytes) :
    pieces (cs.flatMap encodeChar ++ r) = cs.map some ++ pieces r := by
  induction cs with
  | nil => rfl
  | cons c cs ih => rw [List.flatMap_cons, List.append_assoc, pieces_encodeChar_append, ih]; rfl

theorem pieces_encode_append (t : String) (r : Bytes) : pieces (encode t ++ r) = t.toList.map some ++ pieces r :=
  pieces_flatMap_append t.toList r

@[simp] theorem pieces_encode (t : String) : pieces (encode t) = t.toList.map some := by
  simpa using pieces_encode_append t []

/-- What is written is read back. -/
@[simp] theorem decode?_encode (t : String) : decode? (encode t) = some t := by
  simp [decode?]

private theorem eq_flatMap_of_pieces (s : Bytes) (h : (pieces s).all Option.isSome) :
    s = ((pieces s).filterMap id).flatMap encodeChar := by
  match s with
  | [] => simp
  | b :: r =>
    have hl := length_piece_le b r
    rw [pieces_cons] at h ⊢
    generalize hp : piece b r = p at h hl ⊢
    obtain ⟨o, q⟩ := p
    simp only [List.all_cons, Bool.and_eq_true, Option.isSome_iff_exists] at h
    obtain ⟨⟨c, rfl⟩, hq⟩ := h
    have hr := eq_flatMap_of_pieces q hq
    calc b :: r = encodeChar c ++ q := eq_encodeChar_append hp
      _ = encodeChar c ++ ((pieces q).filterMap id).flatMap encodeChar := by rw [← hr]
      _ = _ := rfl
termination_by s.length
decreasing_by exact Nat.lt_succ_of_le hl

/-- Bytes are read as a text exactly if they are its encoding. -/
theorem decode?_eq_some_iff {s : Bytes} {t : String} : decode? s = some t ↔ s = encode t := by
  constructor
  · intro h
    simp only [decode?] at h
    split_ifs at h with hs
    rw [Option.some.injEq] at h
    rw [← h, encode, String.toList_ofList]
    exact eq_flatMap_of_pieces s hs
  · rintro rfl
    exact decode?_encode t

theorem encode_injective : Function.Injective encode := by
  intro t u h
  have := decode?_encode t
  rw [h, decode?_encode] at this
  exact (Option.some.inj this).symm

end FlowCluster.Text.Utf8
