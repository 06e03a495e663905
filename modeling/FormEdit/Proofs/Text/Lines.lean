import FormEdit.Text.Lines

set_option autoImplicit false

/-! # Lines and line feeds

A line ends at a line feed, at a carriage return and the line feed after it, or at one of the other
line ends (`otherEnds`). So above a place there are as many lines as there are line feeds and other
line ends before it (`exists_splitLines_append`), and a text that has its carriage returns made line
feeds has the same lines (`splitLines_unifyNewlines`). -/

namespace FormEdit

/-- The number of line ends of a text that are neither a line feed nor a carriage return and the
    line feed after it. -/
def otherEnds : List Char → Nat
  | [] => 0
  | '\r' :: '\n' :: r => otherEnds r
  | c :: r => (if c ≠ '\n' ∧ isLineBreak c = true then 1 else 0) + otherEnds r

theorem isLineBreak_newline : isLineBreak '\n' = true := by decide

theorem isLineBreak_return : isLineBreak '\r' = true := by decide

variable {cur t r rest : List Char} {c : Char}

/-! ## Cutting off one line -/

theorem splitLinesFrom_pair :
    splitLinesFrom cur ('\r' :: '\n' :: r) = cur.reverse :: splitLinesFrom [] r := rfl

/-- A line end ends the line begun, if it is not the first half of one. -/
theorem splitLinesFrom_break (hc : isLineBreak c = true) (halone : c = '\r' → r.head? ≠ some '\n') :
    splitLinesFrom cur (c :: r) = cur.reverse :: splitLinesFrom [] r := by
  rw [splitLinesFrom, if_pos hc]
  rintro r' rfl rfl
  exact halone rfl rfl

/-- Any other character goes on with the line begun. -/
theorem splitLinesFrom_char (hc : isLineBreak c = false) :
    splitLinesFrom cur (c :: r) = splitLinesFrom (c :: cur) r := by
  rw [splitLinesFrom, hc, if_neg Bool.false_ne_true]
  rintro r' rfl rfl
  cases hc

/-- The first line goes up to the first line end. -/
theorem exists_splitLinesFrom_cons (cur t : List Char) (h : cur ≠ [] ∨ t ≠ []) :
    ∃ more, splitLinesFrom cur t = (cur.reverse ++ t.takeWhile (!isLineBreak ·)) :: more := by
  induction t generalizing cur with
  | nil =>
    have hcur : cur ≠ [] := by simpa using h
    exact ⟨[], by simp [splitLinesFrom, hcur]⟩
  | cons c r ih =>
    cases hc : isLineBreak c with
    | false =>
      obtain ⟨more, hmore⟩ := ih (c :: cur) (.inl (by simp))
      refine ⟨more, ?_⟩
      rw [splitLinesFrom_char hc, hmore]
      simp [hc]
    | true =>
      have htake : (c :: r).takeWhile (!isLineBreak ·) = [] := by simp [hc]
      rw [htake, List.append_nil, splitLinesFrom.eq_def]
      split
      · next heq => cases heq
      · next r' heq => exact ⟨_, rfl⟩
      · next heq =>
        cases heq
        exact ⟨_, if_pos hc⟩

/-! ## The lines above a place -/

/-- Whether `above` are whole lines, and `begun` starts a line behind them that is not at its
    end. -/
structure BeginsLine (above begun : List Char) : Prop where
  whole : ∀ c ∈ above.getLast?, isLineBreak c = true
  open_ : ∀ c ∈ begun, isLineBreak c = false

/-- Behind one more line a line begins as it did. -/
theorem BeginsLine.behind {line ending above begun : List Char} {e : Char}
    (h : BeginsLine above begun) (hlast : ending.getLast? = some e) (he : isLineBreak e = true) :
    BeginsLine (line ++ ending ++ above) begun := by
  refine ⟨fun c hc => ?_, h.open_⟩
  rw [List.getLast?_append, List.getLast?_append, hlast] at hc
  cases habove : above.getLast? with
  | some d =>
    rw [habove] at hc
    exact h.whole c (by rw [habove]; exact hc)
  | none =>
    rw [habove, Option.none_or, Option.some_or] at hc
    rwa [← Option.some.inj hc]

theorem exists_splitLinesFrom_append (cur before : List Char) (hrest : rest.head? ≠ some '\n')
    (hcur : ∀ c ∈ cur, isLineBreak c = false) :
    ∃ above begun lines, cur.reverse ++ before = above ++ begun ∧ BeginsLine above begun ∧
      lines.length = before.count '\n' + otherEnds before ∧
      splitLinesFrom cur (before ++ rest) = lines ++ splitLinesFrom begun.reverse rest := by
  -- The induction goes along the text as its line ends are counted: two characters of one at once.
  induction before using otherEnds.induct generalizing cur with
  | case1 =>
    refine ⟨[], cur.reverse, [], by simp, ⟨by simp, by simpa using hcur⟩, by simp [otherEnds], ?_⟩
    rw [List.nil_append, List.nil_append, List.reverse_reverse]
  | case2 r ih =>
    obtain ⟨above, begun, lines, heq, hbegins, hlength, hlines⟩ := ih [] (by simp)
    have hends : BeginsLine (cur.reverse ++ ['\r', '\n'] ++ above) begun :=
      hbegins.behind rfl isLineBreak_newline
    refine ⟨_, begun, cur.reverse :: lines, ?_, hends, ?_, ?_⟩
    · rw [List.reverse_nil, List.nil_append] at heq
      simp [heq]
    · rw [List.length_cons, hlength, otherEnds]
      simp
      omega
    · rw [List.cons_append, List.cons_append, splitLinesFrom_pair, hlines, List.cons_append]
  | case3 c r hpair ih =>
    have halone : c = '\r' → (r ++ rest).head? ≠ some '\n' := by
      intro hc hhead
      cases r with
      | nil => exact hrest hhead
      | cons d r =>
        obtain rfl : d = '\n' := by simpa using hhead
        exact hpair r hc rfl
    have hother : otherEnds (c :: r) =
        (if c ≠ '\n' ∧ isLineBreak c = true then 1 else 0) + otherEnds r := by
      rw [otherEnds]
      exact hpair
    cases hc : isLineBreak c with
    | false =>
      obtain ⟨above, begun, lines, heq, hbegins, hlength, hlines⟩ :=
        ih (c :: cur) (by simpa [hc] using hcur)
      refine ⟨above, begun, lines, ?_, hbegins, ?_, ?_⟩
      · rw [← heq]
        simp
      · have hne : c ≠ '\n' := by
          rintro rfl
          cases hc
        rw [hlength, hother, List.count_cons_of_ne hne]
        simp [hc]
      · rw [List.cons_append, splitLinesFrom_char hc, hlines]
    | true =>
      obtain ⟨above, begun, lines, heq, hbegins, hlength, hlines⟩ := ih [] (by simp)
      have hends : BeginsLine (cur.reverse ++ [c] ++ above) begun :=
        hbegins.behind rfl hc
      refine ⟨_, begun, cur.reverse :: lines, ?_, hends, ?_, ?_⟩
      · rw [List.reverse_nil, List.nil_append] at heq
        simp [heq]
      · rw [List.length_cons, hlength, hother, List.count_cons]
        by_cases hnl : c = '\n' <;> simp [hnl, hc] <;> omega
      · rw [List.cons_append, splitLinesFrom_break hc halone, hlines, List.cons_append]

/-- A place in a text that does not divide a line end is on the line that follows as many lines as
    there are line feeds and other line ends before the place. The line has what stands on it
    before the place and what follows up to its end. -/
theorem exists_splitLines_append (before : List Char) (hrest : rest.head? ≠ some '\n')
    (hne : rest ≠ []) :
    ∃ above begun, before = above ++ begun ∧ BeginsLine above begun ∧
      (splitLines (before ++ rest))[before.count '\n' + otherEnds before]? =
        some (begun ++ rest.takeWhile (!isLineBreak ·)) := by
  obtain ⟨above, begun, lines, heq, hbegins, hlength, hlines⟩ :=
    exists_splitLinesFrom_append [] before hrest (by simp)
  obtain ⟨more, hmore⟩ := exists_splitLinesFrom_cons begun.reverse rest (.inr hne)
  refine ⟨above, begun, by simpa using heq, hbegins, ?_⟩
  rw [splitLines, hlines, hmore, ← hlength, List.getElem?_append_right (Nat.le_refl _)]
  simp

/-- A line has no line end in it. -/
theorem isLineBreak_of_mem_splitLinesFrom (hcur : ∀ c ∈ cur, isLineBreak c = false) :
    ∀ line ∈ splitLinesFrom cur t, ∀ c ∈ line, isLineBreak c = false := by
  fun_induction splitLinesFrom cur t with
  | case1 cur h => simp
  | case2 cur h => simpa using hcur
  | case3 cur r ih =>
    intro line hline
    rcases List.mem_cons.1 hline with rfl | hline
    · simpa using hcur
    · exact ih (by simp) line hline
  | case4 cur c r _ hc ih =>
    intro line hline
    rcases List.mem_cons.1 hline with rfl | hline
    · simpa using hcur
    · exact ih (by simp) line hline
  | case5 cur c r _ hc ih => exact ih (by simpa [hc] using hcur)

theorem newline_notMem_of_mem_splitLines {line : List Char} (h : line ∈ splitLines t) :
    '\n' ∉ line := by
  intro hmem
  have := isLineBreak_of_mem_splitLinesFrom (by simp) line h '\n' hmem
  rw [isLineBreak_newline] at this
  cases this

/-! ## Making line ends line feeds -/

theorem unifyNewlinesAfter_append (done more t : List Char) :
    unifyNewlinesAfter (done ++ more) t = more.reverse ++ unifyNewlinesAfter done t := by
  fun_induction unifyNewlinesAfter done t with
  | case1 done => simp [unifyNewlinesAfter]
  | case2 done r ih => exact ih
  | case3 done r hpair ih =>
    rw [unifyNewlinesAfter.eq_3 _ _ hpair]
    exact ih
  | case4 done c r hpair hreturn ih =>
    rw [unifyNewlinesAfter.eq_4 _ _ _ hpair hreturn]
    exact ih

theorem unifyNewlinesAfter_eq (done t : List Char) :
    unifyNewlinesAfter done t = done.reverse ++ unifyNewlines t :=
  unifyNewlinesAfter_append [] done t

theorem unifyNewlines_pair : unifyNewlines ('\r' :: '\n' :: r) = '\n' :: unifyNewlines r :=
  unifyNewlinesAfter_eq ['\n'] r

theorem unifyNewlines_return (halone : r.head? ≠ some '\n') :
    unifyNewlines ('\r' :: r) = '\n' :: unifyNewlines r := by
  rw [unifyNewlines, unifyNewlinesAfter, unifyNewlinesAfter_eq]
  · rfl
  · rintro r' rfl
    exact halone rfl

theorem unifyNewlines_char (hc : c ≠ '\r') : unifyNewlines (c :: r) = c :: unifyNewlines r := by
  rw [unifyNewlines, unifyNewlinesAfter, unifyNewlinesAfter_eq]
  · rfl
  · exact fun _ h _ => hc h
  · exact hc

theorem splitLinesFrom_unifyNewlines (cur t : List Char) :
    splitLinesFrom cur (unifyNewlines t) = splitLinesFrom cur t := by
  have hfeed : ∀ cur r, splitLinesFrom cur ('\n' :: r) = cur.reverse :: splitLinesFrom [] r :=
    fun cur r => splitLinesFrom_break isLineBreak_newline nofun
  induction t using otherEnds.induct generalizing cur with
  | case1 => rfl
  | case2 r ih => rw [unifyNewlines_pair, hfeed, splitLinesFrom_pair, ih]
  | case3 c r hpair ih =>
    have halone : c = '\r' → r.head? ≠ some '\n' := by
      intro hc hhead
      obtain ⟨r', rfl⟩ := List.head?_eq_some_iff.1 hhead
      exact hpair r' hc rfl
    by_cases hreturn : c = '\r'
    · rw [splitLinesFrom_break (by rw [hreturn, isLineBreak_return]) halone, hreturn,
        unifyNewlines_return (halone hreturn), hfeed, ih]
    · rw [unifyNewlines_char hreturn]
      cases hc : isLineBreak c with
      | true =>
        rw [splitLinesFrom_break hc fun h => absurd h hreturn, splitLinesFrom_break hc halone, ih]
      | false => rw [splitLinesFrom_char hc, splitLinesFrom_char hc, ih]

/-- A text that has its carriage returns made line feeds has the same lines. -/
theorem splitLines_unifyNewlines (t : List Char) : splitLines (unifyNewlines t) = splitLines t :=
  splitLinesFrom_unifyNewlines [] t

end FormEdit
