import FormEdit.Files.Search
import FormEdit.Proofs.Files.Window

set_option autoImplicit false

/-! # What a search answers

A searcher prints its lines, each with a line feed at its end, and says with its code how the search
went. Any code up to one is answered with lines, also one below zero, with which a program ends that
is stopped. The lines are those of the printed text as people read it, so a line in which another
line end stands is cut there, and a limit below zero leaves out the last lines instead of all
(`Files.grep_answers`). -/

namespace FormEdit.Files

open FormEdit.Action

/-! ## Printed lines -/

/-- Cut what a program prints into lines, where `cur` holds the line begun, newest first. -/
def printedLinesFrom (cur : List Char) : List Char → List (List Char)
  | [] => if cur.isEmpty then [] else [cur.reverse]
  | '\n' :: r => cur.reverse :: printedLinesFrom [] r
  | c :: r => printedLinesFrom (c :: cur) r

/-- The lines that a program prints: each ends with a line feed, and what stands behind the last one
    is a line as well. -/
def printedLines (t : List Char) : List (List Char) := printedLinesFrom [] t

variable {cur t r : List Char} {c : Char}

theorem printedLinesFrom_char (hc : c ≠ '\n') :
    printedLinesFrom cur (c :: r) = printedLinesFrom (c :: cur) r := by
  rw [printedLinesFrom]
  exact fun h => hc h

/-- The first printed line goes up to the first line feed. -/
theorem exists_printedLinesFrom_cons (cur t : List Char) (h : cur ≠ [] ∨ t ≠ []) :
    ∃ more, printedLinesFrom cur t = (cur.reverse ++ t.takeWhile (· != '\n')) :: more := by
  induction t generalizing cur with
  | nil =>
    have hcur : cur ≠ [] := by simpa using h
    exact ⟨[], by simp [printedLinesFrom, hcur]⟩
  | cons c r ih =>
    by_cases hc : c = '\n'
    · subst hc
      exact ⟨printedLinesFrom [] r, by simp [printedLinesFrom]⟩
    · obtain ⟨more, hmore⟩ := ih (c :: cur) (.inl (by simp))
      refine ⟨more, ?_⟩
      rw [printedLinesFrom_char hc, hmore]
      simp [hc]

/-- Printed lines without another line end in them are the lines of the text. -/
theorem take_splitLinesFrom_of_printed (k : Nat)
    (h : ∀ line ∈ (printedLinesFrom cur t).take k, ∀ c ∈ line, isLineBreak c = false) :
    (splitLinesFrom cur t).take k = (printedLinesFrom cur t).take k := by
  induction t generalizing cur k with
  | nil => rfl
  | cons c r ih =>
    by_cases hc : c = '\n'
    · subst hc
      rw [splitLinesFrom_break isLineBreak_newline nofun]
      cases k with
      | zero => rfl
      | succ k =>
        rw [printedLinesFrom, List.take_succ_cons, List.take_succ_cons, ih k fun line hline => ?_]
        exact h line (by rw [printedLinesFrom]; exact List.mem_cons_of_mem _ hline)
    · rw [printedLinesFrom_char hc] at h ⊢
      cases k with
      | zero => rfl
      | succ k =>
        -- The character is on the line begun, so it ends none.
        obtain ⟨more, hmore⟩ := exists_printedLinesFrom_cons (c :: cur) r (.inl (by simp))
        have hbreak : isLineBreak c = false := by
          refine h ((c :: cur).reverse ++ r.takeWhile (· != '\n')) ?_ c (by simp)
          rw [hmore]
          exact List.mem_cons_self
        rw [splitLinesFrom_char hbreak]
        exact ih (k + 1) h

/-- The first lines of a text are the first that are printed exactly if these have no other line end
    in them. -/
theorem take_splitLines_eq_iff (k : Nat) :
    (splitLines t).take k = (printedLines t).take k ↔
      ∀ line ∈ (printedLines t).take k, ∀ c ∈ line, isLineBreak c = false := by
  refine ⟨fun h line hline => ?_, take_splitLinesFrom_of_printed k⟩
  rw [← h] at hline
  exact isLineBreak_of_mem_splitLinesFrom (by simp) line (List.mem_of_mem_take hline)

theorem splitLines_eq_nil_iff : splitLines t = [] ↔ t = [] := by
  refine ⟨fun h => ?_, fun h => by rw [h]; rfl⟩
  by_contra ht
  obtain ⟨more, hmore⟩ := exists_splitLinesFrom_cons [] t (.inr ht)
  rw [splitLines, hmore] at h
  cases h

/-! ## Limits -/

/-- No lines are left exactly if there are none, or the limit is zero or leaves out all. -/
theorem take_endPlace_eq_nil_iff {lines : List (List Char)} {limit : Int} :
    lines.take (endPlace lines.length limit).toNat = [] ↔
      lines = [] ∨ limit = 0 ∨ lines.length + limit ≤ 0 := by
  rw [List.take_eq_nil_iff, or_comm]
  refine or_congr_right' fun hlines => ?_
  have hlength : lines.length ≠ 0 := by simpa using hlines
  unfold endPlace
  split <;> omega

/-- No more lines are left than the limit says exactly if it is not below zero or leaves out all. -/
theorem length_take_endPlace_le_iff {lines : List (List Char)} {limit : Int} :
    (lines.take (endPlace lines.length limit).toNat).length ≤ limit.toNat ↔
      0 ≤ limit ∨ lines.length + limit ≤ 0 := by
  rw [List.length_take]
  unfold endPlace
  split <;> omega

/-- The lines that are left are the first that are printed exactly if there are no more of them than
    the limit says and the printed ones have no other line end in them. -/
theorem take_endPlace_eq_printed_iff (t : List Char) (limit : Int) :
    (splitLines t).take (endPlace (splitLines t).length limit).toNat =
        (printedLines t).take limit.toNat ↔
      (0 ≤ limit ∨ (splitLines t).length + limit ≤ 0) ∧
        ∀ line ∈ (printedLines t).take limit.toNat, ∀ c ∈ line, isLineBreak c = false := by
  by_cases hlimit : limit < 0
  · have hzero : limit.toNat = 0 := by omega
    rw [hzero, List.take_zero, take_endPlace_eq_nil_iff]
    constructor
    · rintro (hnil | hnone | hall)
      · exact ⟨.inr (by rw [hnil]; simp; omega), by simp⟩
      · omega
      · exact ⟨.inr hall, by simp⟩
    · rintro ⟨hneg | hall, -⟩
      · omega
      · exact .inr (.inr hall)
  · rw [endPlace, if_neg hlimit, take_splitLines_eq_iff]
    exact (and_iff_right (.inl (by omega))).symm

/-! ## Searching -/

variable {w : Workspace} {pattern path only : Value} {outcome : RunEnd} {later : List RunEnd}

/-- What is answered with lines: the lines, or that there are none. -/
def answerWith : List (List Char) → String
  | [] => noMatches
  | line :: more => String.ofList (joinLines (line :: more))

theorem results_eq (lines : List (List Char)) (limit : Int) :
    results lines limit = answerWith (lines.take (endPlace lines.length limit).toNat) := by
  have hslice : slice lines 0 limit = _ := slice_eq lines 0 limit
  rw [results, hslice, List.drop_zero]
  cases lines.take (endPlace lines.length limit).toNat <;> rfl

/-- Where a search looks: in the path that is given, or in the working folder. -/
def searched (path : Value) : Value := if path.truthy then path else .text "."

/-- Whether a run came to its end with a code of at most one. -/
def IsSearch (outcome : RunEnd) : Prop :=
  ∃ code output errors, outcome = .finished code output errors ∧ code ≤ 1

theorem grepLines_of_not_isSearch (root : Value) (h : ¬ IsSearch outcome) :
    ∃ message, grepLines root outcome = .error ⟨.readFailure, message, root⟩ := by
  cases outcome with
  | timedOut => exact ⟨_, rfl⟩
  | refused reason => exact ⟨_, rfl⟩
  | finished code output errors =>
    have hcode : 1 < code := by
      by_contra hle
      exact h ⟨code, output, errors, rfl, by omega⟩
    rw [grepLines, if_pos hcode]
    exact ⟨_, rfl⟩

/-- A run ends as the next one is to end. -/
theorem runProgram_meets (run : ProgramRun) (hcoming : w.programs.coming = outcome :: later) :
    (runProgram run).Meets w fun r w' => r = .ok outcome ∧ w'.programs.coming = later := by
  have hrun : w.programs.run run = (outcome, ⟨w.programs.found, later, run :: w.programs.done⟩) := by
    rw [Programs.run, hcoming]
  constructor
  · exact congrArg (fun p => Except.ok p.1) hrun
  · exact congrArg (fun p => p.2.coming) hrun

/-- A search comes to what the run of the searcher comes to. -/
theorem grep_eq (hfound : w.programs.found.contains "rg" = true)
    (hcoming : w.programs.coming = outcome :: later) (limit : Int) :
    ((grep pattern path only (.int limit)).perform w).1 =
      .ok ((grepLines (searched path) outcome).map fun lines => results lines limit) := by
  show Meets (grep pattern path only (.int limit)) w fun r _ => r = _
  unfold grep
  refine Meets.ite_bind (Q := fun r w' => r = .ok (.int limit) ∧ w' = w) nofun
    (fun _ => ⟨rfl, rfl⟩) ?_ (fun e w' h => by cases h.1)
  rintro _ w' ⟨⟨⟩, rfl⟩
  refine Meets.bind_ok (R := fun w₁ => w₁ = w') ⟨congrArg _ hfound, rfl⟩ ?_
  rintro w' rfl
  refine (runProgram_meets _ hcoming).bind_ok ?_
  intro w₁ _
  unfold searched
  cases grepLines (if path.truthy then path else .text ".") outcome <;> rfl

/-- With a searcher there is always an answer. It is lines exactly if the searcher came to its end
    with a code of at most one, and a failure to read otherwise. The lines are those of what was
    printed, as many as the limit says, or without the last ones if it is below zero. They are the
    first printed lines as they are exactly if no other line end stands in these, and the limit is
    not below zero or leaves out all. That nothing was found is answered to an empty text, to a
    limit of zero and to one that leaves out all. -/
theorem grep_answers (hfound : w.programs.found.contains "rg" = true)
    (hcoming : w.programs.coming = outcome :: later) (pattern path only : Value) (limit : Int) :
    let answer := ((grep pattern path only (.int limit)).perform w).1
    ((∃ text, answer = .ok (.ok text)) ∨
      ∃ message, answer = .ok (.error ⟨.readFailure, message, searched path⟩)) ∧
    ((∃ text, answer = .ok (.ok text)) ↔ IsSearch outcome) ∧
    ∀ code output errors, outcome = .finished code output errors → code ≤ 1 →
      let lines := splitLines output.toList
      let printed := printedLines output.toList
      let shown := lines.take (endPlace lines.length limit).toNat
      answer = .ok (.ok (answerWith shown)) ∧
      (shown = printed.take limit.toNat ↔ (0 ≤ limit ∨ lines.length + limit ≤ 0) ∧
        ∀ line ∈ printed.take limit.toNat, ∀ c ∈ line, isLineBreak c = false) ∧
      (shown.length ≤ limit.toNat ↔ 0 ≤ limit ∨ lines.length + limit ≤ 0) ∧
      (shown = [] ↔ output = "" ∨ limit = 0 ∨ lines.length + limit ≤ 0) := by
  intro answer
  have hanswer : answer = _ := grep_eq hfound hcoming limit
  by_cases hsearch : IsSearch outcome
  · obtain ⟨code, output, errors, rfl, hcode⟩ := id hsearch
    have hlines : grepLines (searched path) (.finished code output errors) =
        .ok (splitLines output.toList) := by
      rw [grepLines, if_neg (by omega)]
    rw [hlines] at hanswer
    refine ⟨.inl ⟨_, hanswer⟩, iff_of_true ⟨_, hanswer⟩ hsearch, ?_⟩
    rintro _ output errors ⟨⟩ -
    intro lines printed shown
    refine ⟨?_, take_endPlace_eq_printed_iff _ limit, length_take_endPlace_le_iff, ?_⟩
    · rw [hanswer, ← results_eq]
      rfl
    · rw [take_endPlace_eq_nil_iff, splitLines_eq_nil_iff, String.toList_eq_nil_iff]
  · obtain ⟨message, hfailed⟩ := grepLines_of_not_isSearch (searched path) hsearch
    rw [hfailed] at hanswer
    refine ⟨.inr ⟨message, hanswer⟩, iff_of_false ?_ hsearch, ?_⟩
    · rintro ⟨text, htext⟩
      rw [hanswer] at htext
      cases htext
    · rintro code output errors rfl hcode
      exact absurd ⟨code, output, errors, rfl, hcode⟩ hsearch

/-- The first of two lines. -/
theorem grep_answers_first_line :
    let outcome := .finished 0 "a\nb\n" ""
    let w : Workspace :=
      ⟨⟨[]⟩, "/w", [], none, none, .silent, ⟨["rg"], [outcome], []⟩, .closed, "1", .usual⟩
    w.programs.found.contains "rg" = true ∧ w.programs.coming = outcome :: [] ∧
    ((grep (.text "a") .null .null (.int 1)).perform w).1 = .ok (.ok "a") ∧
    (splitLines "a\nb\n".toList).take 1 = (printedLines "a\nb\n".toList).take 1 := by
  intro outcome w
  have hfound : w.programs.found.contains "rg" = true := by decide
  obtain ⟨-, -, h⟩ := grep_answers hfound (rfl : w.programs.coming = outcome :: [])
    (.text "a") .null .null 1
  obtain ⟨hanswer, hprinted, -⟩ := h _ _ _ rfl (by decide)
  exact ⟨hfound, rfl, hanswer, hprinted.2 ⟨.inl (by decide), by
    simp [printedLines, printedLinesFrom, isLineBreak]⟩⟩

/-- A search that is stopped is answered like one that finds nothing, a line with a form feed in it
    is cut there, and with a limit below zero all lines but the last are shown. -/
theorem grep_answers_stopped_search :
    let answer := fun outcome limit => ((grep (.text "a") .null .null (.int limit)).perform
      ⟨⟨[]⟩, "/w", [], none, none, .silent, ⟨["rg"], [outcome], []⟩, .closed, "1", .usual⟩).1
    answer (.finished (-9) "" "") 5 = .ok (.ok noMatches) ∧
    answer (.finished 0 "f:1:a\x0cb\n" "") 1 = .ok (.ok "f:1:a") ∧
    answer (.finished 0 "f:1:a\nf:2:b\n" "") (-1) = .ok (.ok "f:1:a") := by
  intro answer
  have hfound : ["rg"].contains "rg" = true := by decide
  exact ⟨(grep_eq hfound rfl 5).trans rfl, (grep_eq hfound rfl 1).trans rfl,
    (grep_eq hfound rfl (-1)).trans rfl⟩

end FormEdit.Files
