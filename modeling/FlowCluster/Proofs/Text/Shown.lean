import FlowCluster.Text.Basic
import FlowCluster.Text.Shown
import Mathlib.Data.List.Forall2

/-! # Texts for a reader can be told apart

Quoted texts and listings are shown alike only if they are the same. -/

/-! ## Listings that can be told apart

Two texts are separable if nothing that follows them makes them look alike. Where the values of two listings with the same
names are separable one by one, a value may imitate the marks of the layout and still it is told where it ends: the
listings are shown alike only if they are the same. -/

namespace FlowCluster.Text

/-- Whatever follows them, two texts are told apart, or they are the same. -/
def Separable (u v : String) : Prop := ∀ r r' : String, u ++ r = v ++ r' → u = v

theorem separable_self (u : String) : Separable u u := fun _ _ _ => rfl

theorem Separable.append_inj {u v r r' : String} (h : Separable u v) (he : u ++ r = v ++ r') : u = v ∧ r = r' := by
  obtain rfl := h r r' he
  exact ⟨rfl, (String.append_right_inj u).mp he⟩

/-- Texts that end before the first character without a property are told apart by it. -/
theorem append_inj_of_span {p : Char → Bool} {us vs rs rs' : List Char} (hu : ∀ c ∈ us, p c = true)
    (hv : ∀ c ∈ vs, p c = true) (hr : ∀ c, rs.head? = some c → p c = false)
    (hr' : ∀ c, rs'.head? = some c → p c = false) (h : us ++ rs = vs ++ rs') : us = vs ∧ rs = rs' := by
  have htake {xs ys : List Char} (hx : ∀ c ∈ xs, p c = true) (hy : ∀ c, ys.head? = some c → p c = false) :
      (xs ++ ys).takeWhile p = xs := by
    rw [List.takeWhile_append_of_pos hx]
    cases ys with
    | nil => exact List.append_nil xs
    | cons y ys => rw [List.takeWhile_cons_of_neg (by rw [hy y rfl]; exact Bool.false_ne_true), List.append_nil]
  have hsame : us = vs := by rw [← htake hu hr, h, htake hv hr']
  rw [hsame] at h
  exact ⟨hsame, List.append_cancel_left h⟩

namespace Listing

/-- Two entries of one name, with values that are told apart. -/
structure Comparable (e e' : String × String) : Prop where
  name : e.1 = e'.1
  value : Separable e.2 e'.2

/-- Two listings of one form. -/
structure Alike (l l' : Listing) : Prop where
  title : l.title = l'.title
  entries : List.Forall₂ Comparable l.entries l'.entries

/-- An entry between two marks. -/
def marked (before after : String) (e : String × String) : String := before ++ (e.1 ++ ": " ++ e.2) ++ after

variable {l l' : Listing} {e e' : String × String} {es es' : List (String × String)} {before after r r' : String}

theorem Comparable.append_inj (h : Comparable e e')
    (he : marked before after e ++ r = marked before after e' ++ r') : e = e' ∧ r = r' := by
  simp only [marked, h.name, String.append_assoc, String.append_right_inj] at he
  obtain ⟨hvalue, hrest⟩ := h.value.append_inj he
  exact ⟨Prod.ext h.name hvalue, (String.append_right_inj after).mp hrest⟩

/-- Entries one after another are told apart one after another. -/
theorem eq_of_join (h : List.Forall₂ Comparable es es')
    (he : String.join (es.map (marked before after)) ++ r = String.join (es'.map (marked before after)) ++ r') :
    es = es' := by
  induction h with
  | nil => rfl
  | cons hhead _ ih =>
    simp only [List.map_cons, String.join_cons, String.append_assoc] at he
    obtain ⟨rfl, hrest⟩ := hhead.append_inj he
    rw [ih hrest]

theorem inline_cons (title : String) (e : String × String) (es : List (String × String)) :
    (Listing.mk title (e :: es)).inline =
      title ++ " \x7b " ++ (marked "" "" e ++ (String.join (es.map (marked ", " "")) ++ " \x7d")) := by
  have hjoin (e : String × String) (es : List (String × String)) :
      ", ".intercalate ((e :: es).map fun e => e.1 ++ ": " ++ e.2) =
        marked "" "" e ++ String.join (es.map (marked ", " "")) := by
    induction es generalizing e with
    | nil => simp [marked]
    | cons d es ih =>
      have hrest := ih d
      rw [List.map_cons] at hrest
      rw [List.map_cons, List.map_cons, String.intercalate_cons_cons, hrest]
      simp [marked, String.append_assoc]
  calc (Listing.mk title (e :: es)).inline
      = title ++ " \x7b " ++ ", ".intercalate ((e :: es).map fun e => e.1 ++ ": " ++ e.2) ++ " \x7d" := rfl
    _ = title ++ " \x7b " ++ (marked "" "" e ++ (String.join (es.map (marked ", " "")) ++ " \x7d")) := by
      rw [hjoin]
      simp only [String.append_assoc]

theorem indented_eq (l : Listing) :
    l.indented = l.title ++ " \x7b\n" ++ (String.join (l.entries.map (marked "    " ",\n")) ++ "\x7d") := by
  rw [indented, String.append_assoc]
  congr 3

/-- On one line, listings of one form look alike only if they are the same. -/
theorem Alike.inline_eq_iff (h : Alike l l') : l.inline = l'.inline ↔ l.entries = l'.entries := by
  obtain ⟨title, es⟩ := l
  obtain ⟨title', es'⟩ := l'
  obtain ⟨rfl, hentries⟩ := h
  refine ⟨fun he => ?_, fun he => congrArg (fun es => (Listing.mk title es).inline) he⟩
  cases hentries with
  | nil => rfl
  | cons hhead htail =>
    rw [inline_cons, inline_cons, String.append_right_inj] at he
    obtain ⟨rfl, hrest⟩ := hhead.append_inj he
    rw [eq_of_join htail hrest]

/-- So do they on lines of their own. -/
theorem Alike.indented_eq_iff (h : Alike l l') : l.indented = l'.indented ↔ l.entries = l'.entries := by
  obtain ⟨title, es⟩ := l
  obtain ⟨title', es'⟩ := l'
  obtain ⟨rfl, hentries⟩ := h
  refine ⟨fun he => ?_, fun he => congrArg (fun es => (Listing.mk title es).indented) he⟩
  rw [indented_eq, indented_eq, String.append_right_inj] at he
  exact eq_of_join hentries he

end Listing

/-! ## Quoted text that can be read back

What stands between the quotes is read back one character at a time, so a quoted text is told from every other one, and
where it ends is told from whatever follows: no quote inside it is taken for the last one. -/

namespace Hex

private theorem value?_digitChar : ∀ d < 16, value? (Nat.digitChar d) = some d := by decide

theorem number?_concat (cs : List Char) (c : Char) :
    number? (cs ++ [c]) = (number? cs).bind fun n => (value? c).map (n * 16 + ·) := by
  rw [number?, List.foldlM_append]
  cases hcs : cs.foldlM (fun n c => (value? c).map (n * 16 + ·)) 0 with
  | none => simp [number?, hcs]
  | some n => simp [number?, hcs]

/-- A number is what its digits write. -/
theorem number?_toDigits (n : Nat) : number? (Nat.toDigits 16 n) = some n := by
  induction n using Nat.strongRecOn with
  | ind n ih =>
    by_cases h : n < 16
    · rw [Nat.toDigits_of_lt_base h, ← List.nil_append [n.digitChar], number?_concat, value?_digitChar n h]
      simp [number?]
    · have hlast : n % 16 < 16 := Nat.mod_lt n (by omega)
      rw [Nat.toDigits_of_base_le (by omega) (by omega), number?_concat, ih (n / 16) (by omega),
        value?_digitChar _ hlast, Option.bind_some, Option.map_some, Nat.div_add_mod']

end Hex

namespace Quoted

private theorem digitChar_ne_brace (d : Nat) : Nat.digitChar d ≠ '\x7d' := Nat.digitChar_ne '\x7d' rfl

theorem not_mem_hex (n : Nat) : '\x7d' ∉ hex n := by
  induction n using Nat.strongRecOn with
  | ind n ih =>
    rw [hex, Nat.toDigits_eq_if (by omega)]
    split
    · simp [(digitChar_ne_brace n).symm]
    · have hrest := ih (n / 16) (by omega)
      rw [hex] at hrest
      simp [hrest, (digitChar_ne_brace (n % 16)).symm]

/-- The first character of a text between quotes, and what follows it. -/
def first? : List Char → Option (Char × List Char)
  | '\\' :: 'u' :: '\x7b' :: r =>
    let ds := r.takeWhile (· != '\x7d')
    (Hex.number? ds).map fun n => (Char.ofNat n, r.drop (ds.length + 1))
  | '\\' :: 'n' :: r => some ('\n', r)
  | '\\' :: 'r' :: r => some ('\r', r)
  | '\\' :: 't' :: r => some ('\t', r)
  | '\\' :: '0' :: r => some (Char.ofNat 0, r)
  | '\\' :: c :: r => some (c, r)
  | c :: r => some (c, r)
  | [] => none

private theorem first?_numbered (n : Nat) (r : List Char) :
    first? (['\\', 'u', '\x7b'] ++ hex n ++ ['\x7d'] ++ r) = some (Char.ofNat n, r) := by
  have hall : ∀ c ∈ hex n, (c != '\x7d') = true := by
    intro c hc
    rw [bne_iff_ne]
    rintro rfl
    exact not_mem_hex n hc
  have hdigits : (hex n ++ '\x7d' :: r).takeWhile (· != '\x7d') = hex n := by
    rw [List.takeWhile_append_of_pos hall, List.takeWhile_cons_of_neg (by simp), List.append_nil]
  have hshape : ['\\', 'u', '\x7b'] ++ hex n ++ ['\x7d'] ++ r = '\\' :: 'u' :: '\x7b' :: (hex n ++ '\x7d' :: r) := by
    simp
  rw [hshape, first?, hdigits, hex, Hex.number?_toDigits]
  simp [List.drop_append]

/-- A character is read back from its escape, whatever follows. -/
theorem first?_escapeChar (c : Char) (r : List Char) : first? (escapeChar c ++ r) = some (c, r) := by
  unfold escapeChar
  split_ifs with h₁ h₂ h₃ h₄ h₅ h₆ h₇
  · rw [h₁]; rfl
  · rw [h₂]; rfl
  · rw [h₃]; rfl
  · rw [h₄]; rfl
  · rw [h₅]; rfl
  · have hzero : Char.ofNat 0 = c := by rw [← h₆, Char.ofNat_toNat]
    rw [← hzero]; rfl
  · rw [first?_numbered, Char.ofNat_toNat]
  -- A character without an escape is no backslash, so it is taken for itself.
  · simp [first?, h₂]

theorem escapeChar_append_inj {c d : Char} {r r' : List Char} (h : escapeChar c ++ r = escapeChar d ++ r') :
    c = d ∧ r = r' := by
  have hread := first?_escapeChar c r
  rw [h, first?_escapeChar] at hread
  exact ⟨(congrArg Prod.fst (Option.some.inj hread)).symm, (congrArg Prod.snd (Option.some.inj hread)).symm⟩

/-- No escape begins with the quote that ends a text. -/
theorem escapeChar_append_ne (c : Char) (r r' : List Char) : escapeChar c ++ r ≠ '"' :: r' := by
  intro h
  have hread := first?_escapeChar c r
  rw [h] at hread
  obtain rfl : '"' = c := congrArg Prod.fst (Option.some.inj hread)
  simp [escapeChar] at h

private theorem escaped_append_inj {cs ds r r' : List Char}
    (h : cs.flatMap escapeChar ++ '"' :: r = ds.flatMap escapeChar ++ '"' :: r') : cs = ds := by
  induction cs generalizing ds with
  | nil =>
    cases ds with
    | nil => rfl
    | cons d ds =>
      rw [List.flatMap_cons, List.append_assoc] at h
      exact absurd h.symm (escapeChar_append_ne d _ _)
  | cons c cs ih =>
    cases ds with
    | nil =>
      rw [List.flatMap_cons, List.append_assoc] at h
      exact absurd h (escapeChar_append_ne c _ _)
    | cons d ds =>
      rw [List.flatMap_cons, List.flatMap_cons, List.append_assoc, List.append_assoc] at h
      obtain ⟨rfl, hrest⟩ := escapeChar_append_inj h
      rw [ih hrest]

/-- Two texts that are quoted and followed by anything are the same if they look alike. -/
theorem quote_append_inj {s t r r' : String} (h : quote s ++ r = quote t ++ r') : s = t := by
  have hchars := congrArg String.toList h
  simp only [quote, quoteChars, String.toList_append, String.toList_ofList, List.cons_append, List.append_assoc,
    List.nil_append, List.cons.injEq, true_and] at hchars
  exact String.toList_inj.mp (escaped_append_inj hchars)

theorem quote_injective : Function.Injective quote := by
  intro s t h
  exact quote_append_inj (congrArg (· ++ "") h)

theorem separable_quote (s t : String) : Separable (quote s) (quote t) := by
  intro r r' h
  rw [quote_append_inj h]

end Quoted
end FlowCluster.Text
