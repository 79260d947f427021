import FlowCluster.Proofs.Json.Passage

/-! # One value in place of another

Two documents that differ in one value only, in the same place of a list of records. Where the two values are read alike,
so are the documents: what comes before them is read the same, and what comes after them too, since what is made of it
does not depend on the records so far. -/

namespace FlowCluster.Json

variable {α β γ σ : Type} {F : Fault → Fault → Prop} {d : Nat}

/-- Two readings that fail, with faults that `F` relates, or that take values that `R` relates and leave the same. -/
def Alike (F : Fault → Fault → Prop) (R : α → β → Prop) {s s' : Bytes} (o : Except Fault (α × Rest s))
    (o' : Except Fault (β × Rest s')) : Prop :=
  (∃ f f', o = .error f ∧ o' = .error f' ∧ F f f') ∨
    ∃ x y q h h', o = .ok (x, ⟨q, h⟩) ∧ o' = .ok (y, ⟨q, h'⟩) ∧ R x y

theorem Alike.failed {R : α → β → Prop} {s s' : Bytes} {o : Except Fault (α × Rest s)}
    {o' : Except Fault (β × Rest s')} {f f' : Fault} (h : o = .error f) (h' : o' = .error f') (hf : F f f') :
    Alike F R o o' :=
  .inl ⟨f, f', h, h', hf⟩

section SameBytes

variable {g : α → γ}

/-- Items that are the same come after items that are alike. -/
theorem items_alike (hF : ∀ f, F f f) (item : Reader α) {origin origin' : Bytes} {seen seen' : List α}
    (hseen : seen.map g = seen'.map g) {first : Bool} {s : Bytes} (h : s.length ≤ origin.length)
    (h' : s.length ≤ origin'.length) :
    Alike F (fun xs ys => xs.map g = ys.map g) (items item origin seen first s h)
      (items item origin' seen' first s h') := by
  fun_induction items item origin seen first s h generalizing seen' with
  | case1 seen first s h f hturn =>
    rw [items, hturn]
    exact .failed rfl rfl (hF f)
  | case2 seen first s h r hturn =>
    rw [items, hturn]
    exact .inr ⟨_, _, _, _, _, rfl, rfl, by simp only [List.map_reverse, hseen]⟩
  | case3 seen first s h t hturn f hitem =>
    rw [items, hturn]
    simp only [hitem]
    exact .failed rfl rfl (hF f)
  | case4 seen first s h t hturn x r hitem ih =>
    have hnext : items item origin' seen' first s h' =
        items item origin' (x :: seen') false r.bytes (t.length_rest_le r h') := by
      rw [items, hturn]
      simp only [hitem]
    rw [hnext]
    exact ih (by rw [List.map_cons, List.map_cons, hseen]) _

variable {l : Layout σ} {g : σ → γ}

/-- What a field puts in does not tell records apart that `g` takes to be the same. -/
def Layout.Respects (l : Layout σ) (g : σ → γ) : Prop :=
  ∀ f ∈ l.fields, ∀ d s change q, f.decoder d s = .ok (change, q) → ∀ x y, g x = g y → g (change x) = g (change y)

/-- Members that are the same are put into records that are alike. -/
theorem Layout.named_alike (hF : ∀ f, F f f) (hl : l.Respects g) {origin origin' : Bytes} {taken : List String}
    {x y : σ} (hxy : g x = g y) {first : Bool} {s : Bytes} (h : s.length ≤ origin.length)
    (h' : s.length ≤ origin'.length) :
    Alike F (fun x y => g x = g y) (named l d origin taken x first s h) (named l d origin' taken y first s h') := by
  fun_induction named l d origin taken x first s h generalizing y with
  | case1 taken x first s h f hturn =>
    rw [named, hturn]
    exact .failed rfl rfl (hF f)
  | case2 taken x first s h r hturn =>
    rw [named, hturn]
    exact .inr ⟨_, _, _, _, _, rfl, rfl, hxy⟩
  | case3 taken x first s h t hturn f hkey =>
    rw [named, hturn]
    simp only [hkey]
    exact .failed rfl rfl (hF f)
  | case4 taken x first s h t hturn key k hkey hfield f hcolon =>
    rw [named, hturn]
    simp only [hkey, hfield, hcolon]
    exact .failed rfl rfl (hF f)
  | case5 taken x first s h t hturn key k hkey hfield c hcolon f hskip =>
    rw [named, hturn]
    simp only [hkey, hfield, hcolon, hskip]
    exact .failed rfl rfl (hF f)
  | case6 taken x first s h t hturn key k hkey hfield c hcolon r hskip hlt ih =>
    have hnext : ∃ hr, named l d origin' taken y first s h' = named l d origin' taken y false r.bytes hr := by
      rw [named, hturn]
      simp only [hkey, hfield, hcolon, hskip]
      exact ⟨Nat.le_trans (Nat.le_of_lt hlt) h', trivial⟩
    obtain ⟨hr, hnext⟩ := hnext
    rw [hnext]
    exact ih hxy _
  | case7 taken x first s h t hturn key k hkey field hfield htaken =>
    rw [named, hturn]
    simp only [hkey, hfield, htaken, ↓reduceIte]
    exact .failed rfl rfl (hF _)
  | case8 taken x first s h t hturn key k hkey field hfield htaken f hcolon =>
    rw [named, hturn]
    simp only [hkey, hfield, htaken, ↓reduceIte, hcolon]
    exact .failed rfl rfl (hF f)
  | case9 taken x first s h t hturn key k hkey field hfield htaken c hcolon f hread =>
    rw [named, hturn]
    simp only [hkey, hfield, htaken, ↓reduceIte, hcolon, hread]
    exact .failed rfl rfl (hF f)
  | case10 taken x first s h t hturn key k hkey field hfield htaken c hcolon change r hread hlt ih =>
    have hnext : ∃ hr, named l d origin' taken y first s h' =
        named l d origin' (field.name :: taken) (change y) false r.bytes hr := by
      rw [named, hturn]
      simp only [hkey, hfield, htaken, ↓reduceIte, hcolon, hread]
      exact ⟨Nat.le_trans (Nat.le_of_lt hlt) h', trivial⟩
    obtain ⟨hr, hnext⟩ := hnext
    rw [hnext]
    exact ih (hl field (field?_eq_some hfield).1 d _ change r hread x y hxy) _

end SameBytes

/-- What stands in an object, after its opening bracket, before the value of a key. -/
inductive BeforeMember (key : String) : Bytes → Prop
  | members {last : Bool} {m g k u w : Bytes} :
      Passage .object true last m → Gap last g → Spells k (Text.Utf8.encode key) → Blank u → Blank w →
      BeforeMember key (m ++ (g ++ '"'.toUInt8 :: (k ++ '"'.toUInt8 :: (u ++ ':'.toUInt8 :: w))))

/-- What stands in a list of objects before the value of a key in one of them. -/
inductive BeforeValue (key : String) : Bytes → Prop
  | items {last : Bool} {v p g t : Bytes} :
      Blank v → Passage .list true last p → Gap last g → BeforeMember key t →
      BeforeValue key (v ++ '['.toUInt8 :: (p ++ (g ++ '\x7b'.toUInt8 :: t)))

theorem Gap.apart_cons {first : Bool} {g : Bytes} (hg : Gap first g) {b : UInt8} (hb : goesOnNumber b = false)
    (r : Bytes) : Apart (g ++ b :: r) := by
  cases hg with
  | first hw => exact apart_blank_append hw (Json.apart_cons hb r)
  | next hv hw => exact (Gap.next hv hw).apart _

/-- A field reads alike what two documents go on with, and what it puts in does not tell alike records apart. -/
structure Field.ReadsAlike (field : Field σ) (F : Fault → Fault → Prop) (g : σ → γ) (s s' : Bytes) : Prop where
  length_eq : s.length = s'.length
  alike (d : Nat) {w : Bytes} : Blank w →
    Alike F (fun c c' : σ → σ => ∀ x y, g x = g y → g (c x) = g (c' y)) (field.decoder d (w ++ s))
      (field.decoder d (w ++ s'))

section InPlace

variable {l : Layout σ} {g : σ → γ} {key : String} {field : Field σ} {s s' : Bytes}

private theorem named_alike_at (hF : ∀ f, F f f) (hl : l.Respects g) (hfield : l.field? key = some field)
    (hs : field.ReadsAlike F g s s') {first : Bool} {v k u w : Bytes} (hv : Gap first v)
    (hk : Spells k (Text.Utf8.encode key)) (hu : Blank u) (hw : Blank w) (taken : List String) (x : σ)
    {origin origin' : Bytes}
    (h : (v ++ '"'.toUInt8 :: (k ++ '"'.toUInt8 :: (u ++ ':'.toUInt8 :: (w ++ s)))).length ≤ origin.length)
    (h' : (v ++ '"'.toUInt8 :: (k ++ '"'.toUInt8 :: (u ++ ':'.toUInt8 :: (w ++ s')))).length ≤ origin'.length) :
    Alike F (fun x y => g x = g y)
      (l.named d origin taken x first (v ++ '"'.toUInt8 :: (k ++ '"'.toUInt8 :: (u ++ ':'.toUInt8 :: (w ++ s)))) h)
      (l.named d origin' taken x first (v ++ '"'.toUInt8 :: (k ++ '"'.toUInt8 :: (u ++ ':'.toUInt8 :: (w ++ s')))) h') := by
  by_cases htaken : field.name ∈ taken
  · -- The key is refused in front of its colon, and neither value is read.
    have hlength : (':'.toUInt8 :: (w ++ s)).length = (':'.toUInt8 :: (w ++ s')).length := by simp [hs.length_eq]
    refine .failed (Layout.named_repeated hv hk hu hfield htaken x h)
      (Layout.named_repeated hv hk hu hfield htaken x h') ?_
    rw [Fault.before_congr hlength]
    exact hF _
  · rcases hs.alike d hw with ⟨f, f', hf, hf', hff⟩ | ⟨c, c', q, _, _, hc, hc', hcc⟩
    · exact .failed (Layout.named_refused hv hk hu hfield htaken hf x h)
        (Layout.named_refused hv hk hu hfield htaken hf' x h') hff
    · obtain ⟨_, hnext⟩ := Layout.named_known hv hk hu hfield htaken hc x h
      obtain ⟨_, hnext'⟩ := Layout.named_known hv hk hu hfield htaken hc' x h'
      rw [hnext, hnext']
      exact Layout.named_alike hF hl (hcc x x rfl) _ _

private theorem inside_alike_at (hF : ∀ f, F f f) (hl : l.Respects g) (hlocal : l.HasLocalFields)
    (hfield : l.field? key = some field) (hs : field.ReadsAlike F g s s') {t : Bytes} (ht : BeforeMember key t) :
    Alike F (fun x y => g x = g y) (l.inside d .object (t ++ s)) (l.inside d .object (t ++ s')) := by
  obtain @⟨last, m, v, k, u, w, hm, hv, hk, hu, hw⟩ := ht
  have happend (s : Bytes) : m ++ (v ++ '"'.toUInt8 :: (k ++ '"'.toUInt8 :: (u ++ ':'.toUInt8 :: w))) ++ s =
      m ++ (v ++ '"'.toUInt8 :: (k ++ '"'.toUInt8 :: (u ++ ':'.toUInt8 :: (w ++ s)))) := by simp
  rw [happend, happend]
  have hapart (s : Bytes) := hv.apart_cons (b := '"'.toUInt8) (by decide) s
  rcases hm.passes (Layout.named_step (d := d) hlocal) ([], l.blank) with ⟨f, hf⟩ | ⟨⟨taken, x⟩, hx⟩
  · -- Something before the key is refused, at a distance from the end that the two values do not change.
    have hlength : (v ++ '"'.toUInt8 :: (k ++ '"'.toUInt8 :: (u ++ ':'.toUInt8 :: (w ++ s)))).length =
        (v ++ '"'.toUInt8 :: (k ++ '"'.toUInt8 :: (u ++ ':'.toUInt8 :: (w ++ s')))).length := by simp [hs.length_eq]
    refine .failed (hf _ (hapart _) _ _) (hf _ (hapart _) _ _) ?_
    rw [f.ahead_congr hlength]
    exact hF _
  · obtain ⟨_, hnext⟩ := hx _ (hapart (k ++ '"'.toUInt8 :: (u ++ ':'.toUInt8 :: (w ++ s)))) _ (length_le_self _)
    obtain ⟨_, hnext'⟩ := hx _ (hapart (k ++ '"'.toUInt8 :: (u ++ ':'.toUInt8 :: (w ++ s')))) _ (length_le_self _)
    simp only [Layout.namedLoop] at hnext hnext'
    simp only [Layout.inside]
    rw [hnext, hnext']
    exact named_alike_at hF hl hfield hs hv hk hu hw taken x _ _

/-- The record with the value in it is read alike. -/
private theorem decoder_alike_at (hF : ∀ f, F f f) (hl : l.Respects g) (hlocal : l.HasLocalFields)
    (hfield : l.field? key = some field) (hs : field.ReadsAlike F g s s') {t : Bytes} (ht : BeforeMember key t) (d : Nat) :
    Alike F (fun x y => g x = g y) (l.decoder d ('\x7b'.toUInt8 :: (t ++ s)))
      (l.decoder d ('\x7b'.toUInt8 :: (t ++ s'))) := by
  cases d with
  | zero =>
    have hdeep (s : Bytes) : l.decoder 0 ('\x7b'.toUInt8 :: s) = .error (.past ('\x7b'.toUInt8 :: s) .tooDeep) := rfl
    have hlength : ('\x7b'.toUInt8 :: (t ++ s)).length = ('\x7b'.toUInt8 :: (t ++ s')).length := by simp [hs.length_eq]
    refine .failed (hdeep _) (hdeep _) ?_
    rw [Fault.past_congr hlength]
    exact hF _
  | succ d =>
    rcases inside_alike_at (d := d) hF hl hlocal hfield hs ht with ⟨f, f', hf, hf', hff⟩ | ⟨x, y, q, h, h', hx, hy, hxy⟩
    · exact .failed (Layout.decoder_error (k := .object) blank_nil hf) (Layout.decoder_error (k := .object) blank_nil hf')
        hff
    · obtain ⟨h₁, hx⟩ := Layout.decoder_takes (k := .object) blank_nil ⟨h, hx⟩
      obtain ⟨h₂, hy⟩ := Layout.decoder_takes (k := .object) blank_nil ⟨h', hy⟩
      exact .inr ⟨x, y, q, h₁, h₂, hx, hy, hxy⟩

/-- The items with the record among them are read alike. -/
private theorem items_alike_at (hF : ∀ f, F f f) (hl : l.Respects g) (hlocal : l.HasLocalFields)
    (hfield : l.field? key = some field) (hs : field.ReadsAlike F g s s') {t : Bytes} (ht : BeforeMember key t)
    {last : Bool} {p u : Bytes} (hp : Passage .list true last p) (hu : Gap last u) {origin origin' : Bytes}
    (h : (p ++ (u ++ '\x7b'.toUInt8 :: (t ++ s))).length ≤ origin.length)
    (h' : (p ++ (u ++ '\x7b'.toUInt8 :: (t ++ s'))).length ≤ origin'.length) :
    Alike F (fun xs ys => xs.map g = ys.map g)
      (items (l.decoder d) origin [] true (p ++ (u ++ '\x7b'.toUInt8 :: (t ++ s))) h)
      (items (l.decoder d) origin' [] true (p ++ (u ++ '\x7b'.toUInt8 :: (t ++ s'))) h') := by
  have hapart (s : Bytes) := hu.apart_cons (b := '\x7b'.toUInt8) (by decide) s
  rcases hp.passes (items_step fun e he => Layout.decoder_local hlocal d he) [] with ⟨f, hf⟩ | ⟨seen, hseen⟩
  · have hlength : (u ++ '\x7b'.toUInt8 :: (t ++ s)).length = (u ++ '\x7b'.toUInt8 :: (t ++ s')).length := by
      simp [hs.length_eq]
    refine .failed (hf _ (hapart _) _ h) (hf _ (hapart _) _ h') ?_
    rw [f.ahead_congr hlength]
    exact hF _
  · obtain ⟨_, hnext⟩ := hseen _ (hapart (t ++ s)) _ h
    obtain ⟨_, hnext'⟩ := hseen _ (hapart (t ++ s')) _ h'
    have hstarts (s : Bytes) : Starts ('\x7b'.toUInt8 :: s) := ⟨_, s, rfl, by decide, by decide⟩
    obtain ⟨_, hturn⟩ := listTurn_item_complete hu (hstarts (t ++ s))
    obtain ⟨_, hturn'⟩ := listTurn_item_complete hu (hstarts (t ++ s'))
    simp only [itemsLoop] at hnext hnext'
    rw [hnext, hnext', items, items, hturn, hturn']
    rcases decoder_alike_at hF hl hlocal hfield hs ht d with ⟨f, f', hf, hf', hff⟩ | ⟨x, y, q, _, _, hx, hy, hxy⟩
    · simp only [hf, hf']
      exact .failed rfl rfl hff
    · simp only [hx, hy]
      exact items_alike hF _ (by rw [List.map_cons, List.map_cons, hxy]) _ _

/-- The list with the record in it is read alike. -/
theorem list_alike_at (hF : ∀ f, F f f) (hl : l.Respects g) (hlocal : l.HasLocalFields)
    (hfield : l.field? key = some field) (hs : field.ReadsAlike F g s s') {b : Bytes} (hb : BeforeValue key b) (d : Nat) :
    Alike F (fun xs ys => xs.map g = ys.map g) (list l.decoder d (b ++ s)) (list l.decoder d (b ++ s')) := by
  obtain @⟨last, v, p, u, t, hv, hp, hu, ht⟩ := hb
  have happend (s : Bytes) : v ++ '['.toUInt8 :: (p ++ (u ++ '\x7b'.toUInt8 :: t)) ++ s =
      v ++ '['.toUInt8 :: (p ++ (u ++ '\x7b'.toUInt8 :: (t ++ s))) := by simp
  have hopen (s : Bytes) := content_append hv (b := '['.toUInt8) (by decide) s
  rw [happend, happend]
  unfold list
  simp only [hopen, ↓reduceIte]
  cases d with
  | zero =>
    have hlength : ('['.toUInt8 :: (p ++ (u ++ '\x7b'.toUInt8 :: (t ++ s)))).length =
        ('['.toUInt8 :: (p ++ (u ++ '\x7b'.toUInt8 :: (t ++ s')))).length := by simp [hs.length_eq]
    refine .failed rfl rfl ?_
    rw [Fault.past_congr hlength]
    exact hF _
  | succ d =>
    rcases items_alike_at (d := d) hF hl hlocal hfield hs ht hp hu (length_le_self _) (length_le_self _) with
      ⟨f, f', hf, hf', hff⟩ | ⟨xs, ys, q, h, h', hxs, hys, hsame⟩
    · simp only [hf, hf']
      exact .failed rfl rfl hff
    · simp only [hxs, hys]
      exact .inr ⟨xs, ys, q, by simp at h ⊢; omega, by simp at h' ⊢; omega, rfl, rfl, hsame⟩

end InPlace

/-- Documents that are read alike are refused alike, or they are read as values that are alike. -/
theorem read_alike {R : α → α → Prop} {decoder : Decoder α} {s s' : Bytes} (hF : ∀ f, F f f)
    (h : Alike F R (decoder depthLimit s) (decoder depthLimit s')) :
    (∃ f f', read decoder s = .error (f.locate s) ∧ read decoder s' = .error (f'.locate s') ∧ F f f') ∨
      ∃ x y, read decoder s = .ok x ∧ read decoder s' = .ok y ∧ R x y := by
  unfold read
  rcases h with ⟨f, f', hf, hf', hff⟩ | ⟨x, y, q, _, _, hx, hy, hxy⟩
  · exact .inl ⟨f, f', by simp only [hf], by simp only [hf'], hff⟩
  · cases hq : skipBlank q with
    | nil => exact .inr ⟨x, y, by simp only [hx, hq], by simp only [hy, hq], hxy⟩
    | cons b r =>
      have hpast := hF (.past (b :: r) .trailingCharacters)
      exact .inl ⟨_, _, by simp only [hx, hq], by simp only [hy, hq], hpast⟩

section Place

theorem Position.foldl_step {e : Bytes} (he : ∀ b ∈ e, b ≠ 0x0A) (p : Position) :
    e.foldl Position.step p = ⟨p.line, p.column + e.length⟩ := by
  induction e generalizing p with
  | nil => rfl
  | cons b e ih =>
    obtain ⟨hb, he⟩ := List.forall_mem_cons.mp he
    rw [List.foldl_cons, ih he, Position.step, if_neg hb, List.length_cons, Nat.add_assoc, Nat.add_comm 1]

/-- Places do not tell apart texts of one length without line breaks. -/
theorem Position.after_take_congr {b e e' r : Bytes} (hlength : e.length = e'.length) (he : ∀ c ∈ e, c ≠ 0x0A)
    (he' : ∀ c ∈ e', c ≠ 0x0A) (n : Nat) :
    Position.after ((b ++ (e ++ r)).take n) = Position.after ((b ++ (e' ++ r)).take n) := by
  have htake {e : Bytes} (he : ∀ c ∈ e, c ≠ 0x0A) (m : Nat) : ∀ c ∈ e.take m, c ≠ 0x0A := fun c hc =>
    he c (List.mem_of_mem_take hc)
  simp only [Position.after, List.take_append, List.foldl_append]
  rw [Position.foldl_step (htake he _), Position.foldl_step (htake he' _), List.length_take, List.length_take, hlength]

theorem Fault.locate_congr {b e e' r : Bytes} (hlength : e.length = e'.length) (he : ∀ c ∈ e, c ≠ 0x0A)
    (he' : ∀ c ∈ e', c ≠ 0x0A) (f : Fault) : f.locate (b ++ (e ++ r)) = f.locate (b ++ (e' ++ r)) := by
  rw [locate, locate, Position.after_take_congr hlength he he']
  simp only [List.length_append, hlength]

private theorem Quad.no_break {q : Bytes} {n : Nat} (h : Quad q n) : ∀ c ∈ q, c ≠ 0x0A := by
  obtain ⟨a, b, c, d, rfl, hn⟩ := h
  have hnone : hexValue? 0x0A = none := by decide
  simp only [List.forall_mem_cons, List.not_mem_nil, false_imp_iff, implies_true, and_true]
  refine ⟨?_, ?_, ?_, ?_⟩
  all_goals
    rintro rfl
    simp [hexQuad?, hnone] at hn

/-- A string stands on one line. -/
theorem Scans.no_break {k : Bytes} (h : Scans k) : ∀ c ∈ k, c ≠ 0x0A := by
  induction h with
  | done => simp
  | plain hb _ ih =>
    refine List.forall_mem_cons.mpr ⟨?_, ih⟩
    rintro rfl
    exact hb.2.2 (by decide)
  | escape hx _ ih =>
    refine List.forall_mem_cons.mpr ⟨by decide, List.forall_mem_append.mpr ⟨?_, ih⟩⟩
    cases hx with
    | short hc =>
      refine List.forall_mem_cons.mpr ⟨?_, by simp⟩
      rintro rfl
      cases hc
    | numbered hq => exact List.forall_mem_cons.mpr ⟨by decide, hq.no_break⟩

theorem Quoted.no_break {e : Bytes} {t : String} (h : Quoted e t) : ∀ c ∈ e, c ≠ 0x0A := by
  obtain ⟨k, hk, rfl⟩ := h
  have hquote : '"'.toUInt8 ≠ 0x0A := by decide
  exact List.forall_mem_cons.mpr
    ⟨hquote, List.forall_mem_append.mpr ⟨hk.scans.no_break, List.forall_mem_singleton.mpr hquote⟩⟩

end Place

section Values

variable {g : σ → γ} {name : String} {put : String → σ → σ} {e e' r : Bytes}

/-- Two texts are put in alike. -/
theorem Field.readsAlike_texts {t t' : String} (he : Quoted e t) (he' : Quoted e' t') (hlength : e.length = e'.length)
    (hput : ∀ x y, g x = g y → g (put t x) = g (put t' y)) :
    (Field.nullableText name put).ReadsAlike Eq g (e ++ r) (e' ++ r) where
  length_eq := by rw [List.length_append, List.length_append, hlength]
  alike d w hw := by
    have hreads := Field.nullableText_reads name put d
    obtain ⟨h, hx⟩ := hreads.complete (r := r) hw ⟨t, .inr he, rfl⟩ trivial
    obtain ⟨h', hx'⟩ := hreads.complete (r := r) hw ⟨t', .inr he', rfl⟩ trivial
    exact .inr ⟨_, _, r, h, h', hx, hx', hput⟩

/-- Two values that are refused, each in its own way. -/
theorem Field.readsAlike_refused {field : Field σ}
    (he : ∀ d w, Blank w → ∃ f, field.decoder d (w ++ (e ++ r)) = .error f)
    (he' : ∀ d w, Blank w → ∃ f, field.decoder d (w ++ (e' ++ r)) = .error f) (hlength : e.length = e'.length) :
    field.ReadsAlike (fun _ _ => True) g (e ++ r) (e' ++ r) where
  length_eq := by rw [List.length_append, List.length_append, hlength]
  alike d w hw := by
    obtain ⟨f, hf⟩ := he d w hw
    obtain ⟨f', hf'⟩ := he' d w hw
    exact .failed hf hf' trivial

/-- A number is no text. -/
theorem Field.nullableText_number {x : Numeral} (he : Numeral.Written e x) (d : Nat) (w : Bytes) (hw : Blank w) :
    ∃ f, (Field.nullableText name put).decoder d (w ++ (e ++ r)) = .error f := by
  obtain ⟨b, q, rfl, hb⟩ := he.begins
  cases hread : (Field.nullableText name put).decoder d (w ++ (b :: q ++ r)) with
  | error f => exact ⟨f, rfl⟩
  | ok p =>
    obtain ⟨change, rest⟩ := p
    obtain ⟨v, e', hv, he', hsame⟩ := (Field.nullableText_reads name put d).sound ⟨rest.shorter, hread⟩
    have hstarts : Starts (b :: q ++ r) :=
      ⟨b, q ++ r, rfl, not_isBlank_of_beginsNumeral hb, beginsNumeral_ne hb (by decide)⟩
    have hstarts' := ((Field.nullableText_reads name put d).starts he').append rest.bytes
    obtain ⟨-, hsame⟩ := blank_append_inj hw hv hstarts hstarts' hsame
    obtain ⟨t, (⟨rfl, -⟩ | ⟨k, -, rfl⟩), -⟩ := he'
    · exact absurd (List.cons.inj hsame).1 (beginsNumeral_ne hb (by decide))
    · exact absurd (List.cons.inj hsame).1 (beginsNumeral_ne hb (by decide))

/-- A string in its quotes that denotes no text. -/
def Garbled (e : Bytes) : Prop :=
  ∃ k, Scans k ∧ (∀ t, ¬Spells k (Text.Utf8.encode t)) ∧ e = '"'.toUInt8 :: (k ++ ['"'.toUInt8])

theorem Field.nullableText_garbled (he : Garbled e) (d : Nat) (w : Bytes) (hw : Blank w) :
    ∃ f, (Field.nullableText name put).decoder d (w ++ (e ++ r)) = .error f := by
  obtain ⟨k, hk, hnone, rfl⟩ := he
  obtain ⟨f, hf⟩ := hk.text_or.resolve_left fun ⟨t, ht⟩ => hnone t ht
  have hopen {v : Bytes} (hv : Blank v) := content_append hv (b := '"'.toUInt8) (by decide) (k ++ '"'.toUInt8 :: r)
  have htext {v : Bytes} (hv : Blank v) : text d (v ++ '"'.toUInt8 :: (k ++ '"'.toUInt8 :: r)) = .error (f.ahead r) := by
    rw [text]
    simp only [hopen hv, ↓reduceIte, hf]
  have hquote : '"'.toUInt8 ≠ 'n'.toUInt8 := by decide
  have hread : text d ('"'.toUInt8 :: (k ++ '"'.toUInt8 :: r)) = .error (f.ahead r) := htext blank_nil
  refine ⟨f.ahead r, ?_⟩
  rw [List.cons_append, List.append_assoc, List.singleton_append]
  simp only [Field.nullableText, Field.of]
  unfold orNull
  simp only [hopen hw, hquote, ↓reduceIte, hread]

end Values

end FlowCluster.Json
