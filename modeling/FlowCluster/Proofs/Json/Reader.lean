import FlowCluster.Json.Reader
import Mathlib.Data.List.TakeWhile
import Mathlib.Tactic.SplitIfs

/-! # What readers take

Each reader is described by the text it takes off the front of its input. A reader is *sound* for a grammar when it
takes nothing else, and *complete* when it takes such a text whatever follows. Both are stated with white space in
front, and completeness for inputs that do not go on with a byte which would lengthen a number. -/

namespace FlowCluster.Json

@[simp] theorem Rest.widen_bytes {s t : Bytes} (r : Rest t) (h : t.length ≤ s.length) : (r.widen h).bytes = r.bytes :=
  rfl

/-- White space. -/
def Blank (w : Bytes) : Prop := ∀ b ∈ w, isBlank b = true

instance (w : Bytes) : Decidable (Blank w) := decidable_of_iff (w.all isBlank = true) List.all_eq_true

theorem blank_nil : Blank [] := by simp [Blank]

theorem blank_append_iff {v w : Bytes} : Blank (v ++ w) ↔ Blank v ∧ Blank w :=
  List.forall_mem_append

theorem skipBlank_append {w : Bytes} (hw : Blank w) (s : Bytes) : skipBlank (w ++ s) = skipBlank s :=
  List.dropWhile_append_of_pos hw

theorem skipBlank_eq_nil_iff {s : Bytes} : skipBlank s = [] ↔ Blank s :=
  List.dropWhile_eq_nil_iff

private theorem skipBlank_cons {b : UInt8} (hb : isBlank b = false) (r : Bytes) : skipBlank (b :: r) = b :: r := by
  simp [skipBlank, hb]

theorem exists_blank_append_skipBlank (s : Bytes) : ∃ w, Blank w ∧ s = w ++ skipBlank s :=
  ⟨s.takeWhile isBlank, fun _ hb => List.mem_takeWhile_imp hb, List.takeWhile_append_dropWhile.symm⟩

theorem content_append {w : Bytes} (hw : Blank w) {b : UInt8} (hb : isBlank b = false) (r : Bytes) :
    content (w ++ b :: r) = ⟨b :: r, (List.suffix_append w (b :: r)).length_le⟩ := by
  simp only [content, Tail.mk.injEq]
  rw [skipBlank_append hw, skipBlank_cons hb]

theorem eq_append_of_content {s t : Bytes} {h : t.length ≤ s.length} (hs : content s = ⟨t, h⟩) :
    ∃ w, Blank w ∧ s = w ++ t := by
  obtain ⟨w, hw, he⟩ := exists_blank_append_skipBlank s
  simp only [content, Tail.mk.injEq] at hs
  exact ⟨w, hw, hs ▸ he⟩

/-- What is read off the bytes after an opening byte is read off the whole, behind that byte and white space. -/
theorem eq_append_of_opened {s q t r : Bytes} {b c : UInt8} {h : (b :: q).length ≤ s.length} {p : Rest q}
    {hq : q.length ≤ s.length} {hr : r.length < s.length} (hs : content s = ⟨b :: q, h⟩) (hb : b = c)
    (ht : q = t ++ p.bytes) (hp : p.widen hq = ⟨r, hr⟩) : ∃ w, Blank w ∧ s = w ++ (c :: t ++ r) := by
  obtain ⟨w, hw, he⟩ := eq_append_of_content hs
  have hpr : p.bytes = r := congrArg Rest.bytes hp
  exact ⟨w, hw, by rw [he, hb, ht, hpr, List.cons_append]⟩

/-- Bytes that begin an item: neither white space nor the end of a list. -/
def Starts (e : Bytes) : Prop := ∃ b r, e = b :: r ∧ isBlank b = false ∧ b ≠ ']'.toUInt8

theorem Starts.append {e : Bytes} (h : Starts e) (r : Bytes) : Starts (e ++ r) := by
  obtain ⟨b, q, rfl, hb⟩ := h
  exact ⟨b, q ++ r, rfl, hb⟩

/-- White space in front of what begins with none is determined by the whole. -/
theorem blank_append_inj {v w e f : Bytes} (hv : Blank v) (hw : Blank w) (he : Starts e) (hf : Starts f)
    (h : v ++ e = w ++ f) : v = w ∧ e = f := by
  have hs : skipBlank (v ++ e) = skipBlank (w ++ f) := by rw [h]
  obtain ⟨b, q, rfl, hb, -⟩ := he
  obtain ⟨c, r, rfl, hc, -⟩ := hf
  rw [skipBlank_append hv, skipBlank_append hw, skipBlank_cons hb, skipBlank_cons hc] at hs
  rw [hs] at h ⊢
  exact ⟨List.append_cancel_right h, rfl⟩

/-- Bytes that may go on a number. -/
def goesOnNumber (b : UInt8) : Bool :=
  ('0'.toUInt8 ≤ b && b ≤ '9'.toUInt8) || b == '.'.toUInt8 || b == 'e'.toUInt8 || b == 'E'.toUInt8

/-- Bytes of which none lengthens a number before them. -/
def Apart (r : Bytes) : Prop := ∀ b q, r = b :: q → goesOnNumber b = false

theorem apart_cons {b : UInt8} (hb : goesOnNumber b = false) (q : Bytes) : Apart (b :: q) := by
  rintro c p ⟨⟩
  exact hb

private theorem not_goesOnNumber_of_isBlank {b : UInt8} (hb : isBlank b = true) : goesOnNumber b = false := by
  simp only [isBlank, Bool.or_eq_true, beq_iff_eq] at hb
  rcases hb with ((rfl | rfl) | rfl) | rfl <;> decide

theorem apart_blank_append {w r : Bytes} (hw : Blank w) (hr : Apart r) : Apart (w ++ r) := by
  cases w with
  | nil => exact hr
  | cons b w => exact apart_cons (not_goesOnNumber_of_isBlank (hw b (List.mem_cons_self ..))) _

theorem apart_blank {w : Bytes} (hw : Blank w) : Apart w := by
  have := apart_blank_append hw (r := []) (by rintro b q ⟨⟩)
  simpa using this

theorem apart_nil : Apart [] := apart_blank blank_nil

section Reads

variable {α : Type}

/-- The reader takes `x` off the front of `s` and leaves `r`. -/
def Takes (p : Reader α) (s : Bytes) (x : α) (r : Bytes) : Prop := ∃ h, p s = .ok (x, ⟨r, h⟩)

/-- `e` alone is read as `x`, to its end, and begins with no white space. -/
def Exactly (p : Reader α) (e : Bytes) (x : α) : Prop := Starts e ∧ Takes p e x []

/-- The texts that a reader takes before any input that `follow` admits. -/
structure Reads (follow : Bytes → Prop) (p : Reader α) (R : Bytes → α → Prop) : Prop where
  starts {e x} : R e x → Starts e
  sound {s x r} : Takes p s x r → ∃ w e, Blank w ∧ R e x ∧ s = w ++ (e ++ r)
  complete {w e x r} : Blank w → R e x → follow r → Takes p (w ++ (e ++ r)) x r

theorem Reads.mono {follow follow' : Bytes → Prop} {p : Reader α} {R : Bytes → α → Prop} (h : Reads follow p R)
    (hf : ∀ r, follow' r → follow r) : Reads follow' p R :=
  ⟨h.starts, h.sound, fun hw he hr => h.complete hw he (hf _ hr)⟩

theorem Reads.takes {follow : Bytes → Prop} {p : Reader α} {R : Bytes → α → Prop} (h : Reads follow p R) {e r : Bytes}
    {x : α} (he : R e x) (hr : follow r) : Takes p (e ++ r) x r := by
  simpa using h.complete blank_nil he hr

/-- The texts that a reader takes are those it reads to their end. -/
theorem Reads.exactly_iff {follow : Bytes → Prop} {p : Reader α} {R : Bytes → α → Prop} (h : Reads follow p R)
    (hf : follow []) {e : Bytes} {x : α} : Exactly p e x ↔ R e x := by
  constructor
  · rintro ⟨he, ht⟩
    obtain ⟨w, f, hw, hf, heq⟩ := h.sound ht
    rw [List.append_nil] at heq
    obtain ⟨-, rfl⟩ := blank_append_inj blank_nil hw he (h.starts hf) heq
    exact hf
  · intro he
    exact ⟨h.starts he, by simpa using h.takes he hf⟩

theorem Reads.exactly {follow : Bytes → Prop} {p : Reader α} {R : Bytes → α → Prop} (h : Reads follow p R)
    (hf : follow []) : Reads follow p (Exactly p) :=
  ⟨fun he => he.1,
    fun ht =>
      let ⟨w, e, hw, he, hs⟩ := h.sound ht
      ⟨w, e, hw, (h.exactly_iff hf).mpr he, hs⟩,
    fun hw he hr => h.complete hw ((h.exactly_iff hf).mp he) hr⟩

/-- Any input may follow. -/
def Anything (_ : Bytes) : Prop := True

theorem Reads.apart {p : Reader α} {R : Bytes → α → Prop} (h : Reads Anything p R) : Reads Apart p R :=
  h.mono fun _ _ => trivial

theorem Reads.exactly_apart {p : Reader α} {R : Bytes → α → Prop} (h : Reads Anything p R) :
    Reads Apart p (Exactly p) :=
  h.apart.exactly apart_nil

end Reads

theorem word_sound {e s : Bytes} {t : Tail s} (h : word e s = .ok t) : s = e ++ t.bytes := by
  induction e generalizing s with
  | nil =>
    simp only [word, Except.ok.injEq] at h
    rw [← h, List.nil_append]
  | cons c es ih =>
    cases s with
    | nil => simp [word] at h
    | cons b r =>
      simp only [word] at h
      split_ifs at h with hb
      split at h
      · simp at h
      · next t' ht =>
        rw [Except.ok.injEq] at h
        rw [← h, hb, List.cons_append, ← ih ht]

theorem word_complete (e r : Bytes) : ∃ h, word e (e ++ r) = .ok ⟨r, h⟩ := by
  induction e with
  | nil => exact ⟨Nat.le_refl _, rfl⟩
  | cons c es ih =>
    obtain ⟨h, he⟩ := ih
    exact ⟨Nat.le_succ_of_le h, by simp [word, he]⟩

end FlowCluster.Json
