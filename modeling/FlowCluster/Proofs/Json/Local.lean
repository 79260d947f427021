import FlowCluster.Proofs.Json.Content

/-! # What follows a value

What a reader makes of a well-formed value does not depend on what follows: it takes the same value off the front, or it
fails for the same reason and at the same place. -/

namespace FlowCluster.Json

/-- A fault met in front of some text, if `r` follows that text. -/
def Fault.ahead (f : Fault) (r : Bytes) : Fault := ⟨f.problem, f.unread + r.length⟩

theorem Fault.ahead_append (f : Fault) (s r : Bytes) : f.ahead (s ++ r) = (f.ahead s).ahead r := by
  simp only [ahead, List.length_append, Nat.add_assoc]

theorem Fault.ahead_congr (f : Fault) {r r' : Bytes} (h : r.length = r'.length) : f.ahead r = f.ahead r' := by
  rw [ahead, ahead, h]

theorem Fault.before_congr {s s' : Bytes} (h : s.length = s'.length) (p : Problem) :
    Fault.before s p = Fault.before s' p := by
  rw [before, before, h]

theorem Fault.past_congr {s s' : Bytes} (h : s.length = s'.length) (p : Problem) : Fault.past s p = Fault.past s' p := by
  rw [past, past, h]

theorem Fault.before_append (s r : Bytes) (p : Problem) : Fault.before (s ++ r) p = (Fault.before s p).ahead r := by
  simp only [before, ahead, List.length_append]

theorem Fault.past_append (b : UInt8) (s r : Bytes) (p : Problem) :
    Fault.past (b :: (s ++ r)) p = (Fault.past (b :: s) p).ahead r := by
  simp only [past, ahead, List.length_cons, List.length_append, Nat.add_sub_cancel]

section Strings

private theorem lowSurrogate_other {b : UInt8} (hb : b ≠ '\\'.toUInt8) (r : Bytes) :
    lowSurrogate (b :: r) = .error (.before r .halfEscape) := by
  simp [lowSurrogate, hb]

private theorem lowSurrogate_letter {c : UInt8} (hc : c ≠ 'u'.toUInt8) (r : Bytes) :
    lowSurrogate ('\\'.toUInt8 :: c :: r) = .error (.before r .halfEscape) := by
  simp [lowSurrogate, hc]

private theorem lowSurrogate_lone {q : Bytes} {m : Nat} (hq : Quad q m) (hm : ¬isLowSurrogate m = true) (r : Bytes) :
    lowSurrogate ('\\'.toUInt8 :: 'u'.toUInt8 :: (q ++ r)) = .error (.before r .loneSurrogate) := by
  obtain ⟨_, hread⟩ := hexQuad_complete hq r
  simp [lowSurrogate, hread, hm]

/-- After the first half of a pair the second comes, or what comes is refused whatever follows. -/
private theorem Scans.second_half {e : Bytes} (he : Scans e) :
    (∃ q m e', Quad q m ∧ isLowSurrogate m = true ∧ Scans e' ∧ e = '\\'.toUInt8 :: 'u'.toUInt8 :: (q ++ e')) ∨
      ∃ f : Fault, ∀ r, lowSurrogate (e ++ '"'.toUInt8 :: r) = .error (f.ahead r) := by
  cases he with
  | done =>
    refine .inr ⟨.before [] .halfEscape, fun r => ?_⟩
    rw [← Fault.before_append]
    exact lowSurrogate_other (b := '"'.toUInt8) (by decide) r
  | @plain b e hb he =>
    refine .inr ⟨.before (e ++ ['"'.toUInt8]) .halfEscape, fun r => ?_⟩
    rw [← Fault.before_append, List.append_assoc]
    exact lowSurrogate_other hb.2.1 _
  | @escape x e hx he =>
    cases hx with
    | @short c y hc =>
      have hu : c ≠ 'u'.toUInt8 := by
        rintro rfl
        cases shortEscape_u.symm.trans hc
      refine .inr ⟨.before (e ++ ['"'.toUInt8]) .halfEscape, fun r => ?_⟩
      rw [← Fault.before_append, List.append_assoc]
      exact lowSurrogate_letter hu _
    | @numbered q m hq =>
      by_cases hm : isLowSurrogate m = true
      · exact .inl ⟨q, m, e, hq, hm, he, rfl⟩
      · refine .inr ⟨.before (e ++ ['"'.toUInt8]) .loneSurrogate, fun r => ?_⟩
        have happend : '\\'.toUInt8 :: ('u'.toUInt8 :: q ++ e) ++ '"'.toUInt8 :: r =
            '\\'.toUInt8 :: 'u'.toUInt8 :: (q ++ (e ++ '"'.toUInt8 :: r)) := by simp
        rw [← Fault.before_append, happend, List.append_assoc]
        exact lowSurrogate_lone hq hm _

/-- What stands after a backslash denotes bytes, alone or with what comes next, or it is refused whatever follows. -/
private theorem EscapeForm.escape_or {x e : Bytes} (hx : EscapeForm x) (he : Scans e) :
    (∃ x' y e', Escape x' y ∧ Scans e' ∧ x ++ e = x' ++ e' ∧ e'.length ≤ e.length) ∨
      ∃ f : Fault, ∀ r, escape (x ++ (e ++ '"'.toUInt8 :: r)) = .error (f.ahead r) := by
  cases hx with
  | short hc => exact .inl ⟨_, _, e, .short hc, he, rfl, Nat.le_refl _⟩
  | @numbered q n hq =>
    have hread (s : Bytes) := hexQuad_complete hq s
    by_cases hl : isLowSurrogate n = true
    · refine .inr ⟨.before (e ++ ['"'.toUInt8]) .loneSurrogate, fun r => ?_⟩
      obtain ⟨_, hread⟩ := hread (e ++ '"'.toUInt8 :: r)
      rw [← Fault.before_append, List.append_assoc, List.singleton_append]
      simp only [List.cons_append, escape, shortEscape_u, numberedCharacter, ↓reduceIte, hread, hl]
    · rw [Bool.not_eq_true] at hl
      by_cases hh : isHighSurrogate n = true
      · rcases he.second_half with ⟨p, m, e', hp, hm, he', rfl⟩ | ⟨f, hf⟩
        · exact .inl ⟨_, _, e', .pair hq hl hh hp hm, he', by simp, by simp; omega⟩
        · refine .inr ⟨f, fun r => ?_⟩
          obtain ⟨_, hread⟩ := hread (e ++ '"'.toUInt8 :: r)
          simp only [List.cons_append, escape, shortEscape_u, numberedCharacter, ↓reduceIte, hread, hl, hh, hf,
            Bool.false_eq_true]
      · exact .inl ⟨_, _, e, .numbered hq hl (Bool.eq_false_iff.mpr hh), he, rfl, Nat.le_refl _⟩

/-- What stands between quotes spells bytes, or it is refused whatever follows. -/
private theorem Scans.spells_or {k : Bytes} (hk : Scans k) :
    (∃ d, Spells k d) ∨ ∃ f : Fault, ∀ origin seen r h,
      stringBytes origin seen (k ++ '"'.toUInt8 :: r) h = .error (f.ahead r) := by
  -- A pair of escapes is one step, so the induction is on the length.
  induction hn : k.length using Nat.strong_induction_on generalizing k with
  | _ n ih =>
    cases hk with
    | done => exact .inl ⟨[], .done⟩
    | @plain b e hb he =>
      rcases ih e.length (by simp at hn; omega) he rfl with ⟨d, hd⟩ | ⟨f, hf⟩
      · exact .inl ⟨_, .plain hb hd⟩
      · refine .inr ⟨f, fun origin seen r h => ?_⟩
        simp only [List.cons_append] at h ⊢
        rw [stringBytes]
        simp only [hb.1, hb.2.1, hb.2.2, ↓reduceIte, hf]
    | @escape x e hx he =>
      have hquote : '\\'.toUInt8 ≠ '"'.toUInt8 := by decide
      rcases hx.escape_or he with ⟨x', y, e', hx', he', hsame, hle⟩ | ⟨f, hf⟩
      · rw [hsame]
        rcases ih e'.length (by simp at hn; omega) he' rfl with ⟨d, hd⟩ | ⟨f, hf⟩
        · exact .inl ⟨_, .escape hx' hd⟩
        · refine .inr ⟨f, fun origin seen r h => ?_⟩
          obtain ⟨_, hread⟩ := escape_complete hx' (e' ++ '"'.toUInt8 :: r)
          simp only [List.cons_append, List.append_assoc] at h ⊢
          rw [stringBytes]
          simp only [hquote, ↓reduceIte, hread, hf]
      · refine .inr ⟨f, fun origin seen r h => ?_⟩
        simp only [List.cons_append, List.append_assoc] at h ⊢
        rw [stringBytes]
        simp only [hquote, ↓reduceIte, hf]

/-- A string is read as a text, or it is refused whatever follows. -/
theorem Scans.text_or {k : Bytes} (hk : Scans k) :
    (∃ t, Spells k (Text.Utf8.encode t)) ∨ ∃ f : Fault, ∀ r, string (k ++ '"'.toUInt8 :: r) = .error (f.ahead r) := by
  rcases hk.spells_or with ⟨d, hd⟩ | ⟨f, hf⟩
  · cases ht : Text.Utf8.decode? d with
    | some t => exact .inl ⟨t, (Text.Utf8.decode?_eq_some_iff.mp ht) ▸ hd⟩
    | none =>
      refine .inr ⟨⟨.badCharacter, d.length - Text.Utf8.validLength d⟩, fun r => ?_⟩
      obtain ⟨_, hread⟩ := stringBytes_complete hd [] r (Nat.le_refl _)
      rw [string, hread]
      simp only [List.reverse_nil, List.nil_append, ht, Fault.ahead, Nat.add_comm]
  · refine .inr ⟨f, fun r => ?_⟩
    rw [string, hf]

end Strings

section Values

variable {α : Type} {e : Bytes}

/-- What the reader makes of `e` does not depend on what follows it. -/
def Local (p : Reader α) (e : Bytes) : Prop :=
  (∃ x, ∀ w r, Blank w → Apart r → Takes p (w ++ (e ++ r)) x r) ∨
    ∃ f : Fault, ∀ w r, Blank w → Apart r → p (w ++ (e ++ r)) = .error (f.ahead r)

theorem Reads.isLocal {p : Reader α} {R : Bytes → α → Prop} {x : α} (h : Reads Apart p R) (he : R e x) : Local p e :=
  .inl ⟨x, fun _ _ hw hr => h.complete hw he hr⟩

/-- A value without parts is read as one, or it is refused whatever follows. -/
private theorem scalarText_or (h : ScalarForm e) :
    (∃ x, ScalarText e x) ∨ ∃ b e', e = b :: e' ∧ isBlank b = false ∧ b ≠ '['.toUInt8 ∧ b ≠ '\x7b'.toUInt8 ∧
      ∃ f : Fault, ∀ r, Apart r → scalar b (e' ++ r) = .error (f.ahead r) := by
  cases h with
  | null => exact .inl ⟨_, .null⟩
  | true => exact .inl ⟨_, .true⟩
  | false => exact .inl ⟨_, .false⟩
  | @string k hk =>
    rcases hk.text_or with ⟨t, ht⟩ | ⟨f, hf⟩
    · exact .inl ⟨_, .text ⟨k, ht, rfl⟩⟩
    · refine .inr ⟨_, _, rfl, by decide, by decide, by decide, f, fun r _ => ?_⟩
      have h₁ : '"'.toUInt8 ≠ 'n'.toUInt8 := by decide
      have h₂ : '"'.toUInt8 ≠ 't'.toUInt8 := by decide
      have h₃ : '"'.toUInt8 ≠ 'f'.toUInt8 := by decide
      rw [List.append_assoc, List.singleton_append]
      simp only [scalar, h₁, h₂, h₃, ↓reduceIte, hf]
  | @number _ x hx =>
    cases hn : x.number? with
    | some n => exact .inl ⟨_, .number hx hn⟩
    | none =>
      obtain ⟨b, q, rfl, hb⟩ := hx.begins
      refine .inr ⟨b, q, rfl, not_isBlank_of_beginsNumeral hb, beginsNumeral_ne hb (by decide),
        beginsNumeral_ne hb (by decide), ⟨.numberOutOfRange, x.unreadWhenOutOfRange⟩, fun r hr => ?_⟩
      obtain ⟨_, hread⟩ : ∃ h, Numeral.read .endInValue (b :: (q ++ r)) = .ok (x, ⟨r, h⟩) :=
        Numeral.read_complete .endInValue hx hr
      have h₁ := beginsNumeral_ne hb (c := 'n'.toUInt8) (by decide)
      have h₂ := beginsNumeral_ne hb (c := 't'.toUInt8) (by decide)
      have h₃ := beginsNumeral_ne hb (c := 'f'.toUInt8) (by decide)
      have h₄ := beginsNumeral_ne hb (c := '"'.toUInt8) (by decide)
      simp only [scalar, h₁, h₂, h₃, h₄, hb, ↓reduceIte, number, hread, hn, Fault.ahead, Nat.add_comm]

/-- A value of another kind is refused whatever follows. -/
theorem IsValue.exists_mismatch (h : IsValue e) : ∃ b e', e = b :: e' ∧ isBlank b = false ∧
    ∀ expected, ∃ f : Fault, ∀ r, Apart r → mismatch expected b (e' ++ r) = f.ahead r := by
  cases h with
  | @bracket k t ht =>
    refine ⟨_, t, rfl, isBlank_opening k, fun expected => ?_⟩
    cases k with
    | list =>
      refine ⟨.before ('['.toUInt8 :: t) (.wrongType .list expected), fun r _ => ?_⟩
      rw [← Fault.before_append, List.cons_append, mismatch]
      exact if_pos rfl
    | object =>
      have hne : '\x7b'.toUInt8 ≠ '['.toUInt8 := by decide
      refine ⟨.before ('\x7b'.toUInt8 :: t) (.wrongType .object expected), fun r _ => ?_⟩
      rw [← Fault.before_append, List.cons_append, mismatch]
      simp only [Bracket.opening, hne, ↓reduceIte]
  | scalar hs =>
    rcases scalarText_or hs with ⟨x, hx⟩ | ⟨b, e', rfl, hb, hl, ho, f, hf⟩
    · obtain ⟨b, e', rfl, hb, -, hl, ho, hread⟩ := scalar_complete hx
      refine ⟨b, e', rfl, hb, fun expected => ⟨.before [] (.wrongType (.scalar x) expected), fun r hr => ?_⟩⟩
      obtain ⟨_, hread⟩ := hread r hr
      simp only [mismatch, hl, ho, ↓reduceIte, hread]
      rw [← Fault.before_append, List.nil_append]
    · refine ⟨b, e', rfl, hb, fun expected => ⟨f, fun r hr => ?_⟩⟩
      simp only [mismatch, hl, ho, ↓reduceIte, hf r hr]

theorem IsValue.scans_of_quote (h : IsValue ('"'.toUInt8 :: e)) : ∃ k, Scans k ∧ e = k ++ ['"'.toUInt8] := by
  generalize hs : '"'.toUInt8 :: e = s at h
  cases h with
  | @bracket k _ _ => cases k <;> exact absurd (List.cons.inj hs).1 (by decide)
  | scalar hscalar =>
    rcases hscalar.begins.2 with ⟨k, hk, rfl⟩ | hother
    · exact ⟨k, hk, (List.cons.inj hs).2⟩
    · exact absurd hs.symm (hother e)

theorem IsValue.eq_null (h : IsValue ('n'.toUInt8 :: e)) : 'n'.toUInt8 :: e = Text.Utf8.encode "null" := by
  generalize hs : 'n'.toUInt8 :: e = s at h
  cases h with
  | @bracket k _ _ => cases k <;> exact absurd (List.cons.inj hs).1 (by decide)
  | scalar hscalar =>
    rcases hscalar.begins.1 with hnull | hother
    · exact hnull
    · exact absurd hs.symm (hother e)

theorem text_local (d : Nat) (he : IsValue e) : Local (text d) e := by
  obtain ⟨b, e', rfl, hb, hmismatch⟩ := he.exists_mismatch
  by_cases hquote : b = '"'.toUInt8
  · subst hquote
    obtain ⟨k, hk, rfl⟩ := he.scans_of_quote
    rcases hk.text_or with ⟨t, ht⟩ | ⟨f, hf⟩
    · exact (text_reads d).apart.isLocal ⟨k, ht, rfl⟩
    · refine .inr ⟨f, fun w r hw _ => ?_⟩
      rw [List.cons_append, List.append_assoc, List.singleton_append, text]
      simp only [content_append hw hb, ↓reduceIte, hf]
  · obtain ⟨f, hf⟩ := hmismatch "a string"
    refine .inr ⟨f, fun w r hw hr => ?_⟩
    rw [List.cons_append, text]
    simp only [content_append hw hb, hquote, ↓reduceIte, hf r hr]

theorem orNull_local {blank : α} {decoder : Decoder α} {d : Nat} (he : IsValue e) (h : Local (decoder d) e) :
    Local (orNull blank decoder d) e := by
  obtain ⟨b, e', rfl, hb, -⟩ := he.starts
  by_cases hnull : b = 'n'.toUInt8
  · subst hnull
    obtain rfl : e' = Text.Utf8.encode "ull" := (List.cons.inj (he.eq_null.trans encode_null)).2
    refine .inl ⟨blank, fun w r hw _ => ?_⟩
    obtain ⟨_, hword⟩ := word_complete (Text.Utf8.encode "ull") r
    rw [List.cons_append]
    refine ⟨by simp; omega, ?_⟩
    unfold orNull
    simp only [content_append hw hb, ↓reduceIte, hword]
  · rcases h with ⟨x, hx⟩ | ⟨f, hf⟩
    · refine .inl ⟨x, fun w r hw hr => ?_⟩
      obtain ⟨hlt, hread⟩ : Takes (decoder d) (b :: (e' ++ r)) x r := hx [] r blank_nil hr
      rw [List.cons_append]
      refine ⟨by simp; omega, ?_⟩
      unfold orNull
      simp only [content_append hw hb, hnull, ↓reduceIte, hread, Rest.widen]
    · refine .inr ⟨f, fun w r hw hr => ?_⟩
      have hread : decoder d (b :: (e' ++ r)) = .error (f.ahead r) := hf [] r blank_nil hr
      rw [List.cons_append]
      unfold orNull
      simp only [content_append hw hb, hnull, ↓reduceIte, hread]

theorem Field.of_local {σ : Type} {name : String} {decoder : Decoder α} {put : α → σ → σ} {d : Nat}
    (h : Local (decoder d) e) : Local ((Field.of name decoder put).decoder d) e := by
  rcases h with ⟨x, hx⟩ | ⟨f, hf⟩
  · refine .inl ⟨put x, fun w r hw hr => ?_⟩
    obtain ⟨hlt, hread⟩ := hx w r hw hr
    exact ⟨hlt, by simp only [Field.of, hread]⟩
  · exact .inr ⟨f, fun w r hw hr => by simp only [Field.of, hf w r hw hr]⟩

theorem Field.nullableText_local {σ : Type} (name : String) (put : String → σ → σ) (d : Nat) (he : IsValue e) :
    Local ((Field.nullableText name put).decoder d) e :=
  Field.of_local (orNull_local he (text_local d he))

end Values

end FlowCluster.Json
