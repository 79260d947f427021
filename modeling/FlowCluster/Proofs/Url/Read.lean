import FlowCluster.Proofs.Url.Percent
import FlowCluster.Url.Read
import Mathlib.Data.List.TakeWhile

/-! # Reading an address that needs no change

An address of the web scheme whose path is made of segments that may stay as they are is read to just these segments:
nothing is escaped, nothing is left out, and no segment is taken for dots, however it begins. -/

namespace FlowCluster.Url

/-- Marks that end an authority, stand inside one or break an address. -/
def isMark (c : Char) : Bool := ['/', '\\', '?', '#', '@'].contains c || isBreak c

/-- A segment that stays as it is and where it is. -/
structure Kept (seg : List Char) : Prop where
  chars : ∀ c ∈ seg, staysInPath c = true ∧ c ≠ '/' ∧ c ≠ '\\'
  not_one : dots? seg ≠ some 1
  not_two : dots? seg ≠ some 2

/-- Segments, each after a slash. -/
def pathChars (ss : List (List Char)) : List Char := ss.flatMap ('/' :: ·)

/-- The visible characters are no padding, no breaks and none of the marks that end a path. -/
theorem visible_of_staysInPath {c : Char} (h : staysInPath c = true) :
    isPadding c = false ∧ isBreak c = false ∧ c ≠ '?' ∧ c ≠ '#' := by
  simp only [staysInPath, isVisible, Bool.and_eq_true, decide_eq_true_eq] at h
  obtain ⟨⟨hlow, -⟩, hnone⟩ := h
  refine ⟨?_, ?_, ?_, ?_⟩
  · simp only [isPadding, decide_eq_false_iff_not, Nat.not_le]
    exact hlow
  · simp only [isBreak, Bool.or_eq_false_iff, beq_eq_false_iff_ne]
    refine ⟨⟨?_, ?_⟩, ?_⟩ <;> rintro rfl <;> exact absurd hlow (by decide)
  · rintro rfl
    exact absurd hnone (by decide)
  · rintro rfl
    exact absurd hnone (by decide)

theorem mem_pathChars {ss : List (List Char)} {c : Char} (h : c ∈ pathChars ss) : c = '/' ∨ ∃ seg ∈ ss, c ∈ seg := by
  obtain ⟨seg, hseg, hc⟩ := List.mem_flatMap.mp h
  rcases List.mem_cons.mp hc with rfl | hc
  · exact .inl rfl
  · exact .inr ⟨seg, hseg, hc⟩

variable {ss : List (List Char)}

/-- A path of kept segments has no character that ends it or that is dropped. -/
theorem clean_pathChars (h : ∀ seg ∈ ss, Kept seg) {c : Char} (hc : c ∈ pathChars ss) :
    isPadding c = false ∧ isBreak c = false ∧ c ≠ '?' ∧ c ≠ '#' := by
  rcases mem_pathChars hc with rfl | ⟨seg, hseg, hc⟩
  · decide
  · exact visible_of_staysInPath ((h seg hseg).chars c hc).1

theorem cutAt_eq_self {mark : Char} {cs : List Char} (h : ∀ c ∈ cs, c ≠ mark) : Text.cutAt mark cs = (cs, none) := by
  have hp : ∀ c ∈ cs, (c != mark) = true := fun c hc => bne_iff_ne.mpr (h c hc)
  have htake : cs.takeWhile (· != mark) = cs := List.takeWhile_eq_self_iff.mpr hp
  have hdrop : cs.dropWhile (· != mark) = [] := List.dropWhile_eq_nil_iff.mpr hp
  rw [Text.cutAt, htake, hdrop]
  rfl

/-- Kept segments are the parts of their path. -/
theorem parts_pathChars {seg : List Char} (hseg : Kept seg) (h : ∀ seg ∈ ss, Kept seg) :
    Text.parts (isSlash true) (seg ++ pathChars ss) = seg :: ss := by
  have hnone {seg : List Char} (hseg : Kept seg) : ∀ c ∈ seg, isSlash true c = false := by
    intro c hc
    obtain ⟨-, hs, hb⟩ := hseg.chars c hc
    simp [isSlash, hs, hb]
  induction ss generalizing seg with
  | nil =>
    rw [pathChars, List.flatMap_nil, List.append_nil]
    exact Text.parts_eq_singleton (hnone hseg)
  | cons next ss ih =>
    have hnext : Kept next := h next (List.mem_cons_self ..)
    have hrest := ih hnext fun s hs => h s (List.mem_cons_of_mem _ hs)
    have hpath : pathChars (next :: ss) = '/' :: (next ++ pathChars ss) := rfl
    rw [hpath, Text.parts_append_cons '/' _ (hnone hseg) (by decide), hrest]

/-- A path of kept segments is read to them. -/
theorem segments_pathChars {seg : List Char} (hseg : Kept seg) (h : ∀ seg ∈ ss, Kept seg) :
    segments true (pathChars (seg :: ss)) = seg :: ss := by
  have hall : ∀ s ∈ seg :: ss, Kept s := List.forall_mem_cons.mpr ⟨hseg, h⟩
  have hbreaks : ∀ c ∈ pathChars (seg :: ss), isBreak c = false := fun c hc => (clean_pathChars hall hc).2.1
  have hslash : withoutSlash true (pathChars (seg :: ss)) = seg ++ pathChars ss := by
    rw [withoutSlash, after_eq_drop hbreaks, after_eq_drop hbreaks]
    rfl
  have hjoined : ∀ s ∈ seg :: ss, joined s = s := by
    intro s hs
    apply joined_eq_self
    intro c hc
    exact (visible_of_staysInPath ((hall s hs).chars c hc).1).2.1
  have hdots : ∀ s ∈ seg :: ss, dots? (joined s) ≠ some 1 ∧ dots? (joined s) ≠ some 2 := by
    intro s hs
    rw [hjoined s hs]
    exact ⟨(hall s hs).not_one, (hall s hs).not_two⟩
  have hescape : ∀ s ∈ seg :: ss, Percent.escape staysInPath (joined s) = s := by
    intro s hs
    rw [hjoined s hs]
    exact Percent.escape_eq_self fun c hc => ((hall s hs).chars c hc).1
  have hpassed := Trail.passed_follow_false Trail.root (seg :: ss) hdots
  have hsame : (seg :: ss).map (fun s => Percent.escape staysInPath (joined s)) = seg :: ss :=
    (List.map_congr_left hescape).trans (List.map_id' _)
  rw [segments, hslash, trail, parts_pathChars hseg h, Trail.segments, hpassed, hsame]
  simp [Trail.root]

/-- An address that neither begins nor ends with padding is not stripped. -/
theorem strip_eq_self {cs : List Char} {a z : Char} {m : List Char} (hcs : cs = a :: (m ++ [z]))
    (ha : isPadding a = false) (hz : isPadding z = false) : strip cs = cs := by
  have hfront : cs.dropWhile isPadding = cs := by
    rw [hcs]
    simp [ha]
  have hback : cs.reverse.dropWhile isPadding = cs.reverse := by
    rw [hcs]
    simp [hz]
  rw [strip, hfront, hback, List.reverse_reverse]

theorem scheme?_http (r : List Char) : scheme? ("http:".toList ++ r) = some ("http".toList, r) := by
  rfl

private theorem not_slash_of_not_isMark {c : Char} (h : isMark c = false) : isSlash true c = false := by
  simp only [isMark, Bool.or_eq_false_iff, List.contains_eq_mem, decide_eq_false_iff_not, List.mem_cons, not_or] at h
  obtain ⟨⟨hs, hb, -⟩, -⟩ := h
  simp [isSlash, hs, hb]

private theorem not_break_of_not_isMark {c : Char} (h : isMark c = false) : isBreak c = false := by
  rw [isMark, Bool.or_eq_false_iff] at h
  exact h.2

/-- The scheme of the web allows no address without a host. -/
theorem authority?_nil (isLast : Bool) : authority? "http".toList isLast [] = none := by
  cases isLast <;> rfl

/-- After the scheme of the web, an authority without marks and a path of kept segments. -/
theorem place?_http {authority seg : List Char} (hmarks : ∀ c ∈ authority, isMark c = false) {host : Host}
    {port : Option Nat} (hread : authority? "http".toList true authority = some ⟨host, port, []⟩) (hseg : Kept seg)
    (h : ∀ seg ∈ ss, Kept seg) :
    place? "http".toList true ("//".toList ++ (authority ++ pathChars (seg :: ss))) =
      some (some host, port, .segments (seg :: ss)) := by
  have hslash : ∀ c ∈ authority, (!isSlash true c) = true := by
    intro c hc
    rw [not_slash_of_not_isMark (hmarks c hc)]
    rfl
  have hbreaks : ∀ c ∈ authority, isBreak c = false := fun c hc => not_break_of_not_isMark (hmarks c hc)
  have hfront : ("//".toList ++ (authority ++ pathChars (seg :: ss))).dropWhile (fun c => isSlash true c || isBreak c) =
      authority ++ pathChars (seg :: ss) := by
    cases authority with
    | nil =>
      rw [authority?_nil] at hread
      cases hread
    | cons a r =>
      have ha := hmarks a (List.mem_cons_self ..)
      have hstop : (isSlash true a || isBreak a) = false := by
        rw [not_slash_of_not_isMark ha, not_break_of_not_isMark ha]
        rfl
      have htwo : ∀ c ∈ "//".toList, (isSlash true c || isBreak c) = true := List.all_eq_true.mp (by decide)
      rw [List.dropWhile_append_of_pos htwo, List.cons_append, List.dropWhile_cons_of_neg (by simp [hstop])]
  have hpath : pathChars (seg :: ss) = '/' :: (seg ++ pathChars ss) := rfl
  have htake : (authority ++ pathChars (seg :: ss)).takeWhile (fun c => !isSlash true c) = authority := by
    rw [List.takeWhile_append_of_pos hslash, hpath, List.takeWhile_cons_of_neg (by decide), List.append_nil]
  have hdrop : (authority ++ pathChars (seg :: ss)).dropWhile (fun c => !isSlash true c) = pathChars (seg :: ss) := by
    rw [List.dropWhile_append_of_pos hslash, hpath, List.dropWhile_cons_of_neg (by decide)]
  have hspecial : isSpecial "http".toList = true := by decide
  rw [place?, if_neg (by decide)]
  simp only [hspecial, ↓reduceIte, hfront, htake, hdrop, joined_eq_self hbreaks, hread]
  exact congrArg (fun p => some (some host, port, Path.segments p)) (segments_pathChars hseg h)

/-- The text of an address of the web scheme, with an authority and a path, is read to them. -/
theorem read?_http {authority seg : List Char} (hmarks : ∀ c ∈ authority, isMark c = false) {host : Host}
    {port : Option Nat} (hread : authority? "http".toList true authority = some ⟨host, port, []⟩) (hseg : Kept seg)
    (h : ∀ seg ∈ ss, Kept seg) :
    read? (String.ofList ("http://".toList ++ (authority ++ pathChars (seg :: ss)))) =
      some ⟨"http".toList, some host, port, .segments (seg :: ss), none, none⟩ := by
  have hclean {c : Char} (hc : c ∈ pathChars (seg :: ss)) := clean_pathChars (List.forall_mem_cons.mpr ⟨hseg, h⟩) hc
  have hne : pathChars (seg :: ss) ≠ [] := List.cons_ne_nil '/' _
  have hstrip : strip ("http://".toList ++ (authority ++ pathChars (seg :: ss))) =
      "http://".toList ++ (authority ++ pathChars (seg :: ss)) := by
    have hends : "http://".toList ++ (authority ++ pathChars (seg :: ss)) =
        'h' :: ("ttp://".toList ++ (authority ++ (pathChars (seg :: ss)).dropLast) ++
          [(pathChars (seg :: ss)).getLast hne]) := by
      rw [List.append_assoc, List.append_assoc, List.dropLast_concat_getLast hne]
      rfl
    exact strip_eq_self hends (by decide) (hclean (List.getLast_mem hne)).1
  have hscheme : scheme? ("http://".toList ++ (authority ++ pathChars (seg :: ss))) =
      some ("http".toList, "//".toList ++ (authority ++ pathChars (seg :: ss))) := scheme?_http _
  have huncut (mark : Char) (hmark : mark = '#' ∨ mark = '?') :
      Text.cutAt mark ("//".toList ++ (authority ++ pathChars (seg :: ss))) =
        ("//".toList ++ (authority ++ pathChars (seg :: ss)), none) := by
    apply cutAt_eq_self
    intro c hc
    rcases List.mem_append.mp hc with hc | hc
    · rintro rfl
      rcases hmark with rfl | rfl <;> exact absurd hc (by decide)
    · rcases List.mem_append.mp hc with hc | hc
      · rintro rfl
        have hm := hmarks c hc
        rcases hmark with rfl | rfl <;> exact absurd hm (by decide)
      · rintro rfl
        obtain ⟨-, -, hquery, hfragment⟩ := hclean hc
        rcases hmark with rfl | rfl
        · exact hfragment rfl
        · exact hquery rfl
  simp only [read?, String.toList_ofList, hstrip, hscheme, huncut '#' (.inl rfl), huncut '?' (.inr rfl),
    Option.isNone_none, Bool.and_self, place?_http hmarks hread hseg h, Option.bind_eq_bind, Option.bind_some]
  rfl

/-- The text of an address of the web scheme that has no port. -/
theorem chars_http (host : Host) (ss : List (List Char)) :
    (Url.mk "http".toList (some host) none (.segments ss) none none).chars =
      "http://".toList ++ (host.chars ++ pathChars ss) := by
  simp only [chars, authorityChars, targetChars, Path.chars, marked, Option.map_none, List.append_nil]
  rfl

/-- In the schemes that are read leniently no host goes without a name. -/
private theorem Host.ofName?_ne_unnamed (cs : List Char) : Host.ofName? cs ≠ some (.name []) := by
  unfold Host.ofName?
  split
  · simp
  · simp
  · next text hne _ =>
    split
    · cases Ipv4.read? text <;> simp
    · intro h
      cases h
      exact hne rfl

theorem Host.read?_ne_unnamed (cs : List Char) : Host.read? true cs ≠ some (.name []) := by
  unfold Host.read?
  split
  · next r =>
    split
    · cases Ipv6.read? r.dropLast <;> simp
    · simp
  · exact Host.ofName?_ne_unnamed cs

theorem host_ne_unnamed_of_authority? {scheme cs : List Char} {isLast : Bool} {a : Authority}
    (hspecial : isSpecial scheme = true) (h : authority? scheme isLast cs = some a) : a.host ≠ .name [] := by
  unfold authority? at h
  dsimp only at h
  split at h
  · cases h
  · obtain ⟨host, hhost, h⟩ := Option.bind_eq_some_iff.mp h
    obtain ⟨port, -, h⟩ := Option.bind_eq_some_iff.mp h
    cases h
    intro hname
    dsimp only at hname
    rw [hspecial, hname] at hhost
    exact Host.read?_ne_unnamed _ hhost

theorem hasHost_of_ne_unnamed {u : Url} {host : Host} (hne : host ≠ .name []) (h : u.host = some host) :
    u.hasHost = true := by
  rw [hasHost, h]
  cases host with
  | name cs =>
    cases cs with
    | nil => exact absurd rfl hne
    | cons c cs => rfl
  | ipv4 n => rfl
  | ipv6 gs => rfl

/-- An address of the web has a host with a name; of the schemes that are read leniently only that of files may do
without. -/
theorem hasHost_of_special {s : String} {u : Url} (h : read? s = some u) (hspecial : isSpecial u.scheme = true)
    (hfile : u.scheme ≠ "file".toList) : u.hasHost = true := by
  obtain ⟨⟨scheme, rest⟩, -, h⟩ := Option.bind_eq_some_iff.mp h
  obtain ⟨⟨host, port, path⟩, hplace, h⟩ := Option.bind_eq_some_iff.mp h
  cases h
  dsimp only at hspecial hfile
  rw [place?, if_neg hfile] at hplace
  dsimp only at hplace
  rw [if_pos hspecial] at hplace
  obtain ⟨a, ha, hplace⟩ := Option.bind_eq_some_iff.mp hplace
  cases hplace
  exact hasHost_of_ne_unnamed (host_ne_unnamed_of_authority? hspecial ha) rfl

/-- What is made of dots, written out or as their bytes, denotes them. -/
theorem decode_of_dots? {cs : List Char} {n : Nat} (h : dots? cs = some n) :
    Percent.decode cs = List.replicate n '.'.toUInt8 := by
  fun_induction dots? cs generalizing n with
  | case1 =>
    rw [Option.some.injEq] at h
    subst h
    rfl
  | case2 r ih =>
    obtain ⟨m, hm, rfl⟩ := Option.map_eq_some_iff.mp h
    rw [Percent.decode_cons (by decide), ih hm, List.replicate_succ]
    rfl
  | case3 c r hc ih =>
    obtain ⟨m, hm, rfl⟩ := Option.map_eq_some_iff.mp h
    rw [List.replicate_succ, ← ih hm]
    rcases hc with rfl | rfl <;> rfl
  | case4 => cases h
  | case5 => cases h

private theorem ascii_of_isAlpha {c : Char} (h : c.isAlpha = true) : c.toNat < 128 := by
  rcases (Bool.or_eq_true _ _).mp h with hupper | hlower
  · have hle : c.val ≤ 'Z'.val := (of_decide_eq_true hupper : _ ∧ _).2
    exact Nat.lt_of_le_of_lt hle (by decide)
  · have hle : c.val ≤ 'z'.val := of_decide_eq_true ((Bool.and_eq_true _ _).mp hlower).2
    exact Nat.lt_of_le_of_lt hle (by decide)

private theorem ascii_of_isDigit {c : Char} (h : c.isDigit = true) : c.toNat < 128 := by
  have hle : c.val ≤ '9'.val := of_decide_eq_true ((Bool.and_eq_true _ _).mp h).2
  exact Nat.lt_of_le_of_lt hle (by decide)

private theorem ascii_of_isUnreserved {c : Char} (h : Percent.isUnreserved c = true) : c.toNat < 128 := by
  simp only [Percent.isUnreserved, Char.isAlphanum, Bool.or_eq_true, beq_iff_eq] at h
  rcases h with ((((h | h) | rfl) | rfl) | rfl) | rfl
  · exact ascii_of_isAlpha h
  · exact ascii_of_isDigit h
  all_goals decide

private theorem ascii_of_isUpperHex {c : Char} (h : Percent.isUpperHex c = true) : c.toNat < 128 := by
  rcases (Bool.or_eq_true _ _).mp h with hdigit | hletter
  · exact ascii_of_isDigit hdigit
  · have hle : c.val ≤ 'F'.val := of_decide_eq_true ((Bool.and_eq_true _ _).mp hletter).2
    exact Nat.lt_of_le_of_lt hle (by decide)

/-- The characters that encoding writes stay in a path and are no slashes; there are few enough to try them all. -/
private theorem stays_ascii : ∀ n < 128,
    Percent.isUnreserved (Char.ofNat n) = true ∨ Percent.isUpperHex (Char.ofNat n) = true →
      staysInPath (Char.ofNat n) = true ∧ Char.ofNat n ≠ '/' ∧ Char.ofNat n ≠ '\\' := by decide

private theorem stays_of_written {c : Char} (h : Percent.isUnreserved c = true ∨ Percent.isUpperHex c = true) :
    staysInPath c = true ∧ c ≠ '/' ∧ c ≠ '\\' := by
  have hc : c.toNat < 128 := h.elim ascii_of_isUnreserved ascii_of_isUpperHex
  have hstays := stays_ascii c.toNat hc
  rw [Char.ofNat_toNat] at hstays
  exact hstays h

/-- Encoded text holds characters that stay in a path, and no slash of either way. -/
theorem stays_of_encoded {cs : List Char} (h : Percent.Encoded cs) :
    ∀ c ∈ cs, staysInPath c = true ∧ c ≠ '/' ∧ c ≠ '\\' := by
  induction h with
  | nil => simp
  | char hc _ ih => exact List.forall_mem_cons.mpr ⟨stays_of_written (.inl hc), ih⟩
  | triple ha hb _ ih =>
    have hpercent : staysInPath '%' = true ∧ '%' ≠ '/' ∧ '%' ≠ '\\' := by decide
    exact List.forall_mem_cons.mpr ⟨hpercent, List.forall_mem_cons.mpr ⟨stays_of_written (.inr ha),
      List.forall_mem_cons.mpr ⟨stays_of_written (.inr hb), ih⟩⟩⟩

/-- Encoded text that denotes neither one dot nor two stays as it is and where it is. -/
theorem Kept.of_encoded {cs : List Char} (h : Percent.Encoded cs) (hone : Percent.decode cs ≠ ['.'.toUInt8])
    (htwo : Percent.decode cs ≠ ['.'.toUInt8, '.'.toUInt8]) : Kept cs where
  chars := stays_of_encoded h
  not_one hd := hone (decode_of_dots? hd)
  not_two hd := htwo (decode_of_dots? hd)

end FlowCluster.Url
