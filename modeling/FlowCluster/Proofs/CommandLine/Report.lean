import FlowCluster.CommandLine.Run
import Mathlib.Tactic.SplitIfs

/-! # Reports that can be taken apart

The margin of a line says whether a cause begins on it: the number of a cause, however long, has a digit in the fifth
column, which is blank on the lines that go on with one. So the causes of a failure can be read off its report, however
many there are and whatever lines they have. -/

namespace FlowCluster

namespace CommandLine

/-! ## Lines of texts -/

/-- The lines of a text. -/
def linesOf (s : String) : List String := (Text.parts (· == '\n') s.toList).map String.ofList

theorem parts_eq_splitOn (cs : List Char) : Text.parts (· == '\n') cs = cs.splitOn '\n' := by
  induction cs with
  | nil => rfl
  | cons c cs ih =>
    have hcons : (c :: cs).splitOn '\n' =
        if c == '\n' then [] :: cs.splitOn '\n' else (cs.splitOn '\n').modifyHead (List.cons c) :=
      List.splitOnP_cons_eq_if_modifyHead ..
    obtain ⟨p, ps, hps⟩ := List.exists_cons_of_ne_nil (Text.parts_ne_nil (· == '\n') cs)
    rw [hcons, ← ih, Text.parts, hps]
    rfl

theorem linesOf_ne_nil (s : String) : linesOf s ≠ [] := by
  rw [linesOf, ne_eq, List.map_eq_nil_iff]
  exact Text.parts_ne_nil _ _

private theorem map_toList_map_ofList (ps : List (List Char)) : (ps.map String.ofList).map String.toList = ps := by
  rw [List.map_map]
  have hid : String.toList ∘ String.ofList = id := funext fun cs => String.toList_ofList
  rw [hid, List.map_id]

private theorem map_ofList_map_toList (ls : List String) : (ls.map String.toList).map String.ofList = ls := by
  rw [List.map_map]
  have hid : String.ofList ∘ String.toList = id := funext fun s => String.ofList_toList
  rw [hid, List.map_id]

/-- A text is its lines with a break between each two. -/
theorem intercalate_linesOf (s : String) : "\n".intercalate (linesOf s) = s := by
  have hbreak : "\n".toList = ['\n'] := rfl
  rw [← String.toList_inj, String.toList_intercalate, linesOf, map_toList_map_ofList, parts_eq_splitOn, hbreak,
    List.intercalate_splitOn]

/-- Texts of one line, with a break between each two, are the lines of what they make. -/
theorem linesOf_intercalate {ls : List String} (hne : ls ≠ []) (h : ∀ l ∈ ls, '\n' ∉ l.toList) :
    linesOf ("\n".intercalate ls) = ls := by
  have hbreak : "\n".toList = ['\n'] := rfl
  have hlines : ∀ l ∈ ls.map String.toList, '\n' ∉ l := List.forall_mem_map.mpr h
  rw [linesOf, parts_eq_splitOn, String.toList_intercalate, hbreak, List.splitOn_intercalate '\n' hlines (by simpa),
    map_ofList_map_toList]

private theorem not_mem_of_mem_parts {cs l : List Char} (h : l ∈ Text.parts (· == '\n') cs) : '\n' ∉ l := by
  induction cs generalizing l with
  | nil =>
    rw [Text.parts, List.mem_singleton] at h
    rw [h]
    exact List.not_mem_nil
  | cons c cs ih =>
    obtain ⟨p, ps, hps⟩ := List.exists_cons_of_ne_nil (Text.parts_ne_nil (· == '\n') cs)
    rw [hps] at ih
    rw [Text.parts, hps] at h
    split_ifs at h with hc
    · rcases List.mem_cons.mp h with rfl | h
      · exact List.not_mem_nil
      · exact ih h
    · rcases List.mem_cons.mp h with rfl | h
      · have hp : '\n' ∉ p := ih (List.mem_cons_self ..)
        rw [List.mem_cons, not_or]
        exact ⟨fun he => hc (by rw [← he]; rfl), hp⟩
      · exact ih (List.mem_cons_of_mem _ h)

theorem not_mem_of_mem_linesOf {s l : String} (h : l ∈ linesOf s) : '\n' ∉ l.toList := by
  obtain ⟨cs, hcs, rfl⟩ := List.mem_map.mp h
  rw [String.toList_ofList]
  exact not_mem_of_mem_parts hcs

theorem intercalate_flatten {s : String} {blocks : List (List String)} (h : ∀ b ∈ blocks, b ≠ []) :
    s.intercalate (blocks.map s.intercalate) = s.intercalate blocks.flatten := by
  induction blocks with
  | nil => rfl
  | cons b blocks ih =>
    obtain ⟨hb, hblocks⟩ := List.forall_mem_cons.mp h
    cases blocks with
    | nil => rw [List.map_singleton, String.intercalate_singleton, List.flatten_singleton]
    | cons b' blocks =>
      have hrest : (b' :: blocks).flatten ≠ [] := by
        obtain ⟨l, ls, rfl⟩ := List.exists_cons_of_ne_nil (hblocks b' (List.mem_cons_self ..))
        exact List.cons_ne_nil _ _
      have hall : (b :: b' :: blocks).flatten = b ++ (b' :: blocks).flatten := List.flatten_cons
      rw [List.map_cons, String.intercalate_cons_of_ne_nil (by simp), ih hblocks, hall,
        String.intercalate_append_of_ne_nil hb hrest]

/-! ## Marked lines -/

/-- Lines with a mark before the first and a margin before the others. -/
def marked (mark margin : String) : List String → List String
  | [] => []
  | l :: ls => (mark ++ l) :: ls.map (margin ++ ·)

theorem marked_ne_nil (mark margin : String) {ls : List String} (h : ls ≠ []) : marked mark margin ls ≠ [] := by
  cases ls with
  | nil => exact absurd rfl h
  | cons l ls => exact List.cons_ne_nil _ _

theorem intercalate_marked (mark margin : String) {ls : List String} (h : ls ≠ []) :
    "\n".intercalate (marked mark margin ls) = mark ++ ("\n" ++ margin).intercalate ls := by
  cases ls with
  | nil => exact absurd rfl h
  | cons l ls =>
    clear h
    rw [marked]
    induction ls generalizing mark l with
    | nil => rw [List.map_nil, String.intercalate_singleton, String.intercalate_singleton]
    | cons l' ls ih =>
      rw [List.map_cons, String.intercalate_cons_cons, ih margin l', String.intercalate_cons_cons]
      simp only [String.append_assoc]

/-- The mark of a cause: its number, or the margin if it is the only one. -/
def causeMark : Option Nat → String
  | some n => spaces (5 - (toString n).length) ++ toString n ++ ": "
  | none => "    "

def causeMargin (number : Option Nat) : String := if number.isSome then "       " else "    "

theorem causeLines_eq (number : Option Nat) (message : String) :
    causeLines number message =
      "\n".intercalate (marked (causeMark number) (causeMargin number) (linesOf message)) := by
  rw [intercalate_marked _ _ (linesOf_ne_nil message)]
  cases number with
  | none => rfl
  | some n => rfl

private theorem isDigit_of_mem_toString {n : Nat} {c : Char} (h : c ∈ (toString n).toList) : c.isDigit = true := by
  rw [Nat.toString_eq_ofList_toDigits, String.toList_ofList] at h
  exact Nat.isDigit_of_mem_toDigits (by omega) (by omega) h

/-- A number stands behind blanks, as many as it takes for its last digit to come into the fifth column. -/
theorem causeMark_some (n : Nat) : (causeMark (some n)).toList =
    List.replicate (5 - (toString n).length) ' ' ++ ((toString n).toList ++ [':', ' ']) := by
  simp [causeMark, spaces]

/-- The fifth column of a number has a digit of it. -/
theorem causeMark_getElem? (n : Nat) : ∃ d, (causeMark (some n)).toList[4]? = some d ∧ d.isDigit = true := by
  have hlength : 0 < (toString n).length := by
    rw [← String.length_toList, Nat.toString_eq_ofList_toDigits, String.toList_ofList]
    exact Nat.length_toDigits_pos
  have hcolumn : 4 - (5 - (toString n).length) < (toString n).toList.length := by
    rw [String.length_toList]
    omega
  refine ⟨_, ?_, isDigit_of_mem_toString (List.getElem_mem hcolumn)⟩
  rw [causeMark_some, List.getElem?_append_right (by rw [List.length_replicate]; omega), List.length_replicate,
    List.getElem?_append_left hcolumn, List.getElem?_eq_getElem hcolumn]

theorem not_mem_causeMark {n : Nat} {c : Char} (hblank : c ≠ ' ') (hcolon : c ≠ ':') (hdigit : c.isDigit = false) :
    c ∉ (causeMark (some n)).toList := by
  intro h
  rw [causeMark_some, List.mem_append, List.mem_append] at h
  rcases h with h | h | h
  · exact hblank (List.eq_of_mem_replicate h)
  · exact absurd (isDigit_of_mem_toString h) (by simp [hdigit])
  · simp [hblank, hcolon] at h

/-! ## Reading a report -/

/-- Whether a line goes on with the cause of the line before it. -/
def continues (l : String) : Bool := l.toList[4]? == some ' '

/-- A line without its margin. -/
def unmarked (width : Nat) (l : String) : String := String.ofList (l.toList.drop width)

/-- A line without its number, which ends with a colon and a blank. -/
def unnumbered (l : String) : String := String.ofList ((l.toList.dropWhile (· != ':')).drop 2)

/-- Lines by causes, after those that go on with a cause that began before them. -/
def gathered : List String → List String × List (List String)
  | [] => ([], [])
  | l :: ls =>
    let (more, causes) := gathered ls
    if continues l then (unmarked 7 l :: more, causes) else ([], (unnumbered l :: more) :: causes)

/-- The causes in a report, from what stands below its heading. -/
def causesIn (body : String) : List String :=
  let lines := linesOf body
  let causes := if body.toList[4]? == some '0' then (gathered lines).2 else [lines.map (unmarked 4)]
  causes.map "\n".intercalate

theorem unmarked_append {mark : String} {width : Nat} (h : mark.toList.length = width) (l : String) :
    unmarked width (mark ++ l) = l := by
  rw [unmarked, String.toList_append, ← h, List.drop_left, String.ofList_toList]

theorem unnumbered_append (n : Nat) (l : String) : unnumbered (causeMark (some n) ++ l) = l := by
  have hbefore : ∀ c ∈ List.replicate (5 - (toString n).length) ' ' ++ (toString n).toList, (c != ':') = true := by
    intro c hc
    rw [bne_iff_ne]
    rintro rfl
    rcases List.mem_append.mp hc with hc | hc
    · exact absurd (List.eq_of_mem_replicate hc) (by decide)
    · exact absurd (isDigit_of_mem_toString hc) (by decide)
  rw [unnumbered, String.toList_append, causeMark_some, ← List.append_assoc, List.append_assoc,
    List.dropWhile_append_of_pos hbefore]
  exact String.ofList_toList

theorem gathered_margin {ls rest more : List String} {causes : List (List String)}
    (h : gathered rest = (more, causes)) :
    gathered (ls.map (causeMargin (some 0) ++ ·) ++ rest) = (ls ++ more, causes) := by
  induction ls with
  | nil => exact h
  | cons l ls ih =>
    have hcontinues : continues (causeMargin (some 0) ++ l) = true := by
      rw [continues, String.toList_append]
      rfl
    have hwidth : (causeMargin (some 0)).toList.length = 7 := rfl
    have hline : unmarked 7 (causeMargin (some 0) ++ l) = l := unmarked_append hwidth l
    rw [List.map_cons, List.cons_append, gathered, ih]
    simp only [hcontinues, hline, ↓reduceIte, List.cons_append]

/-- A cause with its number is gathered, and its lines are as they were. -/
theorem gathered_marked (n : Nat) {ls rest : List String} (hne : ls ≠ []) {causes : List (List String)}
    (h : gathered rest = ([], causes)) :
    gathered (marked (causeMark (some n)) (causeMargin (some n)) ls ++ rest) = ([], ls :: causes) := by
  cases ls with
  | nil => exact absurd rfl hne
  | cons l ls =>
    have hcontinues : continues (causeMark (some n) ++ l) = false := by
      obtain ⟨d, hd, hdigit⟩ := causeMark_getElem? n
      rw [continues, String.toList_append, List.getElem?_append_left (List.getElem?_eq_some_iff.mp hd).1, hd,
        beq_eq_false_iff_ne]
      rintro hblank
      cases hblank
      exact absurd hdigit (by decide)
    have hmore : gathered (ls.map (causeMargin (some 0) ++ ·) ++ rest) = _ := gathered_margin h
    rw [List.append_nil] at hmore
    have hmargin : causeMargin (some n) = causeMargin (some 0) := rfl
    rw [marked, hmargin, List.cons_append, gathered, hmore]
    simp only [hcontinues, unnumbered_append, Bool.false_eq_true, ↓reduceIte]

/-- The lines of causes that are numbered from `k` on. -/
def numberedLines (k : Nat) (causes : List String) : List String :=
  ((causes.zipIdx k).map fun (m, n) => marked (causeMark (some n)) (causeMargin (some n)) (linesOf m)).flatten

theorem numberedLines_cons (k : Nat) (m : String) (causes : List String) :
    numberedLines k (m :: causes) =
      marked (causeMark (some k)) (causeMargin (some k)) (linesOf m) ++ numberedLines (k + 1) causes := by
  rw [numberedLines, List.zipIdx_cons, List.map_cons, List.flatten_cons]
  rfl

theorem gathered_numberedLines (k : Nat) (causes : List String) :
    gathered (numberedLines k causes) = ([], causes.map linesOf) := by
  induction causes generalizing k with
  | nil => rfl
  | cons m causes ih =>
    rw [numberedLines_cons, List.map_cons]
    exact gathered_marked k (linesOf_ne_nil m) (ih (k + 1))

/-- What stands below the heading of a report. -/
def causesText (causes : List String) : String :=
  "\n".intercalate (causes.zipIdx.map fun (m, n) => causeLines (if causes.length > 1 then some n else none) m)

private theorem not_mem_marked {mark margin : String} (hmark : '\n' ∉ mark.toList) (hmargin : '\n' ∉ margin.toList)
    {ls : List String} (h : ∀ l ∈ ls, '\n' ∉ l.toList) : ∀ l ∈ marked mark margin ls, '\n' ∉ l.toList := by
  cases ls with
  | nil => exact fun l hl => absurd hl List.not_mem_nil
  | cons l ls =>
    obtain ⟨hl, hls⟩ := List.forall_mem_cons.mp h
    rw [marked, List.forall_mem_cons, List.forall_mem_map]
    refine ⟨?_, ?_⟩
    · rw [String.toList_append, List.mem_append, not_or]
      exact ⟨hmark, hl⟩
    · intro l' hl'
      rw [String.toList_append, List.mem_append, not_or]
      exact ⟨hmargin, hls l' hl'⟩

private theorem not_mem_numberedLines (k : Nat) (causes : List String) :
    ∀ l ∈ numberedLines k causes, '\n' ∉ l.toList := by
  intro l hl
  obtain ⟨b, hb, hl⟩ := List.mem_flatten.mp hl
  obtain ⟨⟨m, n⟩, -, rfl⟩ := List.mem_map.mp hb
  have hmargin : '\n' ∉ (causeMargin (some 0)).toList := by decide
  exact not_mem_marked (not_mem_causeMark (by decide) (by decide) (by decide)) hmargin
    (fun l hl => not_mem_of_mem_linesOf hl) l hl

theorem causesText_numbered {causes : List String} (h : 1 < causes.length) :
    causesText causes = "\n".intercalate (numberedLines 0 causes) := by
  have hblocks : ∀ b ∈ causes.zipIdx.map fun (m, n) =>
      marked (causeMark (some n)) (causeMargin (some n)) (linesOf m), b ≠ [] := by
    rw [List.forall_mem_map]
    exact fun p _ => marked_ne_nil _ _ (linesOf_ne_nil p.1)
  rw [numberedLines, ← intercalate_flatten hblocks, List.map_map, causesText]
  congr 1
  apply List.map_congr_left
  rintro ⟨m, n⟩ -
  simp only [gt_iff_lt, h, ↓reduceIte, causeLines_eq, Function.comp]

theorem causesText_one (m : String) :
    causesText [m] = "\n".intercalate (marked "    " "    " (linesOf m)) := by
  rw [causesText, List.zipIdx_singleton, List.map_singleton, String.intercalate_singleton]
  exact causeLines_eq none m

private theorem map_unmarked_marked {mark : String} {width : Nat} (h : mark.toList.length = width) (ls : List String) :
    (marked mark mark ls).map (unmarked width) = ls := by
  cases ls with
  | nil => rfl
  | cons l ls =>
    have hcomp : unmarked width ∘ (mark ++ ·) = id := funext fun l => unmarked_append h l
    rw [marked, List.map_cons, unmarked_append h, List.map_map, hcomp, List.map_id]

/-- A margin does not change how the first line begins. -/
private theorem head?_intercalate (margin : String) (ls : List String) :
    (("\n" ++ margin).intercalate ls).toList.head? = ("\n".intercalate ls).toList.head? := by
  cases ls with
  | nil => rfl
  | cons l ls =>
    cases ls with
    | nil => rw [String.intercalate_singleton, String.intercalate_singleton]
    | cons l' ls =>
      have hbreak : "\n".toList = ['\n'] := rfl
      simp only [String.intercalate_cons_cons, String.toList_append, List.append_assoc, List.head?_append, hbreak,
        List.cons_append, List.head?_cons]

private theorem causesText_nil_getElem? (m : String) : (causesText [m]).toList[4]? = m.toList.head? := by
  have hmargin : "    ".toList = [' ', ' ', ' ', ' '] := rfl
  rw [causesText_one, intercalate_marked _ _ (linesOf_ne_nil m), String.toList_append, hmargin]
  have hhead := head?_intercalate "    " (linesOf m)
  rw [intercalate_linesOf, List.head?_eq_getElem?] at hhead
  exact hhead

private theorem causesText_cons_getElem? (m m' : String) (causes : List String) :
    (causesText (m :: m' :: causes)).toList[4]? = some '0' := by
  have hmark : (causeMark (some 0)).toList = [' ', ' ', ' ', ' ', '0', ':', ' '] := by decide
  obtain ⟨l, ls, hls⟩ := List.exists_cons_of_ne_nil (linesOf_ne_nil m)
  rw [causesText_numbered (by simp), numberedLines_cons, hls, marked, List.cons_append, String.intercalate_cons_append,
    String.toList_append, hmark]
  rfl

private theorem numberedLines_ne_nil (k : Nat) (m : String) (causes : List String) :
    numberedLines k (m :: causes) ≠ [] := by
  rw [numberedLines_cons]
  exact List.append_ne_nil_of_left_ne_nil (marked_ne_nil _ _ (linesOf_ne_nil m)) _

/-- Several causes are read as they were, and so is one alone that does not begin as if it were numbered. -/
theorem causesIn_causesText {m : String} {causes : List String} (hone : causes = [] → m.toList.head? ≠ some '0') :
    causesIn (causesText (m :: causes)) = m :: causes := by
  have hread : "\n".intercalate ∘ linesOf = id := funext intercalate_linesOf
  cases causes with
  | nil =>
    have hmargin : '\n' ∉ "    ".toList := by decide
    have hlines : linesOf (causesText [m]) = marked "    " "    " (linesOf m) := by
      rw [causesText_one]
      apply linesOf_intercalate
      · exact marked_ne_nil _ _ (linesOf_ne_nil m)
      · exact not_mem_marked hmargin hmargin fun l hl => not_mem_of_mem_linesOf hl
    have hnot : ((causesText [m]).toList[4]? == some '0') = false := by
      rw [causesText_nil_getElem?, beq_eq_false_iff_ne]
      exact hone rfl
    have hwidth : "    ".toList.length = 4 := rfl
    rw [causesIn, hlines, hnot, map_unmarked_marked hwidth]
    simp only [Bool.false_eq_true, ↓reduceIte, List.map_singleton, intercalate_linesOf]
  | cons m' causes =>
    have hlines : linesOf (causesText (m :: m' :: causes)) = numberedLines 0 (m :: m' :: causes) := by
      rw [causesText_numbered (by simp)]
      exact linesOf_intercalate (numberedLines_ne_nil _ _ _) (not_mem_numberedLines 0 _)
    rw [causesIn, hlines, causesText_cons_getElem?, gathered_numberedLines]
    simp only [BEq.rfl, ↓reduceIte, List.map_map, hread, List.map_id]

end CommandLine

/-! ## The causes of a failure -/

/-- The causes behind a call that failed: a fault of the network with what is behind it, or why a body was not read. What
a service says of itself, a status and a request that cannot be made have no cause behind them. -/
inductive CallFailure.Behind : CallFailure → List String → Prop
  | network (url : String) (fault : NetworkFault) :
      Behind (.transport url (.network fault)) (fault.message :: fault.causes)
  | rejection (url : String) (r : Json.Rejection) : Behind (.decode url r) [r.message]
  | stated (url message : String) : Behind (.transport url (.stated message)) []
  | status (url : String) (code : UInt16) : Behind (.status url code) []
  | emptyBody (url : String) (code : UInt16) : Behind (.emptyBody url code) []
  | request (url message : String) : Behind (.request url message) []

/-- The causes behind a failure, from the outermost one: the call that failed, and what is behind that. -/
inductive LookupFailure.Behind : LookupFailure → List String → Prop
  | flow {c : CallFailure} {ms : List String} : c.Behind ms → Behind (.flow c) (c.message :: ms)
  | clusters {c : CallFailure} {ms : List String} : c.Behind ms → Behind (.clusters c) (c.message :: ms)
  | misconfigured (m : Misconfiguration) : Behind (.misconfigured m) []
  | clusterNotFound (bucket identifier : String) : Behind (.clusterNotFound bucket identifier) []

theorem CallFailure.behind_iff {c : CallFailure} {ms : List String} : c.Behind ms ↔ ms = c.chain := by
  constructor
  · intro h
    cases h <;> rfl
  · rintro rfl
    cases c with
    | request url message => exact .request url message
    | transport url cause =>
      cases cause with
      | stated message => exact .stated url message
      | network fault => exact .network url fault
    | status url code => exact .status url code
    | emptyBody url code => exact .emptyBody url code
    | decode url r => exact .rejection url r

theorem LookupFailure.behind_iff {e : LookupFailure} {ms : List String} : e.Behind ms ↔ ms = e.chain := by
  constructor
  · intro h
    cases h with
    | flow h => exact congrArg _ (CallFailure.behind_iff.mp h)
    | clusters h => exact congrArg _ (CallFailure.behind_iff.mp h)
    | misconfigured m => rfl
    | clusterNotFound bucket identifier => rfl
  · rintro rfl
    cases e with
    | flow c => exact .flow (CallFailure.behind_iff.mpr rfl)
    | clusters c => exact .clusters (CallFailure.behind_iff.mpr rfl)
    | misconfigured m => exact .misconfigured m
    | clusterNotFound bucket identifier => exact .clusterNotFound bucket identifier

namespace CommandLine

theorem report_eq (heading : String) (e : LookupFailure) :
    report heading e = "Error: " ++ heading ++ "\n\nCaused by:\n" ++ causesText (e.message :: e.chain) ++ "\n" := rfl

/-- A failure without a cause below it begins with a word. -/
theorem message_head?_ne {e : LookupFailure} (h : e.chain = []) : e.message.toList.head? ≠ some '0' := by
  cases e with
  | flow c => cases h
  | clusters c => cases h
  | misconfigured m =>
    have hmessage : (LookupFailure.misconfigured m).message = "misconfiguration: " ++ m.message := rfl
    rw [hmessage, String.toList_append, List.head?_append]
    simp
  | clusterNotFound bucket identifier =>
    have hmessage : (LookupFailure.clusterNotFound bucket identifier).message =
        "cluster " ++ (identifier ++ (" not found in bucket " ++ bucket)) := by
      rw [← String.append_assoc, ← String.append_assoc]
      rfl
    rw [hmessage, String.toList_append, List.head?_append]
    simp

/-- The causes that a report shows are the failure and all below it. -/
theorem causesIn_report (e : LookupFailure) :
    causesIn (causesText (e.message :: e.chain)) = e.message :: e.chain :=
  causesIn_causesText message_head?_ne

end CommandLine
end FlowCluster
