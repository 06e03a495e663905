import FormEdit.Proofs.Token.Scan
import Mathlib.Data.List.TakeWhile

set_option autoImplicit false

/-! # Where two runs of tokens meet

When a run of tokens is put before another, the last token of the first may go on over the front of
the second. If that takes in nothing but trivia, all the other tokens stay as they are
(`isScan_join`). Whether it does so can be seen from the two runs (`cleanSeam`). -/

namespace FormEdit

namespace Token

/-! ## Moved tokens -/

@[simp] theorem text_shift (k : Int) (t : Token) : (t.shift k).text = t.text := rfl

@[simp] theorem textOf_map_shift (k : Int) (ts : List Token) :
    textOf (ts.map (shift k)) = textOf ts := by
  induction ts with
  | nil => rfl
  | cons t ts ih => rw [List.map_cons, textOf_cons, textOf_cons, text_shift, ih]

/-- The scan of a text is the same at another offset, but for the offsets. -/
theorem IsScan.shift {o : Int} {ts : List Token} (h : IsScan o ts) (k : Int) :
    IsScan (o + k) (ts.map (Token.shift k)) := by
  induction ts generalizing o with
  | nil => trivial
  | cons t ts ih =>
    obtain ⟨ho, hw, hb, hs⟩ := h
    refine ⟨by simp [Token.shift, ho], hw, by rw [textOf_map_shift]; exact hb, ?_⟩
    have := ih hs
    rw [text_shift, Int.add_right_comm]
    exact this

/-- A scan that is moved to the front is a scan from there. -/
theorem IsScan.moved {o : Int} {ts : List Token} (h : IsScan o ts) :
    IsScan 0 (ts.map (Token.shift (-o))) := by
  have hscan := h.shift (-o)
  rwa [Int.add_right_neg] at hscan

/-- A text is scanned in one way. -/
theorem IsScan.unique {ts us : List Token} (hts : IsScan 0 ts) (hus : IsScan 0 us)
    (h : textOf ts = textOf us) : ts = us := by
  have := scan_textOf hts
  rw [h, scan_textOf hus] at this
  exact (congrArg Scan.tokens this).symm

/-! ## Tokens that go on for a run of characters -/

/-- Whether a token goes on over what follows for as long as the characters pass a test. -/
def RunsOver (p : Char → Bool) (t : Token) : Prop :=
  ∃ c s, t.text = c :: s ∧
    ∀ r, reach c (s ++ r) = .ok (t.kind, s.length + (r.takeWhile p).length)

/-- The token with more text at its end. -/
def extend (r : List Char) (t : Token) : Token := { t with text := t.text ++ r }

@[simp] theorem extend_nil (t : Token) : t.extend [] = t := by simp [extend]

theorem RunsOver.absorbs_eq {p : Char → Bool} {t : Token} (h : t.RunsOver p) (x : Char) :
    t.absorbs x = p x := by
  obtain ⟨c, s, ht, hr⟩ := h
  simp only [absorbs, ht, hr]
  cases hx : p x <;> simp [hx]

theorem RunsOver.standsBefore_iff {p : Char → Bool} {t : Token} (h : t.RunsOver p)
    (r : List Char) : t.StandsBefore r ↔ ∀ x ∈ r.head?, p x = false := by
  simp only [StandsBefore, h.absorbs_eq]

theorem RunsOver.extend {p : Char → Bool} {t : Token} {r : List Char} (h : t.RunsOver p)
    (hr : ∀ x ∈ r, p x = true) : (t.extend r).RunsOver p := by
  obtain ⟨c, s, ht, hreach⟩ := h
  refine ⟨c, s ++ r, by simp [Token.extend, ht], fun r' => ?_⟩
  rw [List.append_assoc, hreach, List.takeWhile_append_of_pos hr, List.length_append,
    List.length_append, Nat.add_assoc]
  rfl

theorem RunsOver.whole {p : Char → Bool} {t : Token} (h : t.RunsOver p) : t.Whole := by
  obtain ⟨c, s, ht, hreach⟩ := h
  have := hreach []
  exact ⟨c, s, ht, by simpa using this⟩

theorem reach_newline (r : List Char) : reach '\n' r = .ok (.newline, 0) := rfl

theorem isSpacing_newline : isSpacing '\n' = false := by decide

theorem reach_spacing {c : Char} (hc : isSpacing c = true) (r : List Char) :
    reach c r = .ok (.whitespace, (r.takeWhile isSpacing).length) := by
  have hne : c ≠ '\n' := by
    rintro rfl
    rw [isSpacing_newline] at hc
    cases hc
  rw [reach.eq_def, if_neg hne, if_pos hc]

theorem reach_comment {c : Char} {r : List Char} (hc : c = ';' ∨ c = '#' ∧ r.head? = some '!') :
    reach c r = .ok (.comment, lineReach r) := by
  rcases hc with rfl | ⟨rfl, hhead⟩
  · rfl
  · cases r with
    | nil => cases hhead
    | cons d r =>
      rw [Option.some.inj hhead]
      rfl

theorem Whole.runsOver_whitespace {t : Token} (h : t.Whole) (hk : t.kind = .whitespace) :
    t.RunsOver isSpacing ∧ ∀ x ∈ t.text, isSpacing x = true := by
  obtain ⟨c, s, ht, hreach⟩ := h
  have hfits := fits_of_reach hreach
  rw [hk] at hfits
  obtain ⟨-, hc, hlen⟩ := hfits
  have hs : ∀ x ∈ s, isSpacing x = true :=
    List.takeWhile_eq_self_iff.1 ((List.takeWhile_prefix _).eq_of_length hlen.symm)
  refine ⟨⟨c, s, ht, fun r => ?_⟩, ?_⟩
  · rw [reach_spacing hc, List.takeWhile_append_of_pos hs, List.length_append, hk]
  · rw [ht]
    simpa using ⟨hc, hs⟩

theorem Whole.runsOver_comment {t : Token} (h : t.Whole) (hk : t.kind = .comment) :
    t.RunsOver (· ≠ '\n') ∧ ∀ x ∈ t.text, decide (x ≠ '\n') = true := by
  obtain ⟨c, s, ht, hreach⟩ := h
  have hfits := fits_of_reach hreach
  rw [hk] at hfits
  obtain ⟨hc, hlen⟩ := hfits
  have hs : ∀ x ∈ s, decide (x ≠ '\n') = true :=
    List.takeWhile_eq_self_iff.1 ((List.takeWhile_prefix _).eq_of_length hlen.symm)
  refine ⟨⟨c, s, ht, fun r => ?_⟩, ?_⟩
  · have hline : c = ';' ∨ c = '#' ∧ (s ++ r).head? = some '!' := by
      rcases hc with hc | ⟨hc, hhead⟩
      · exact .inl hc
      · exact .inr ⟨hc, by rw [List.head?_append, hhead, Option.some_or]⟩
    rw [reach_comment hline, lineReach, List.takeWhile_append_of_pos hs, List.length_append, hk]
  · rw [ht]
    rcases hc with rfl | ⟨rfl, -⟩ <;> simpa using hs

/-- A line end takes in nothing. -/
theorem Whole.standsBefore_newline {t : Token} (h : t.Whole) (hk : t.kind = .newline)
    (r : List Char) : t.StandsBefore r := by
  obtain ⟨c, s, ht, hreach⟩ := h
  have hfits := fits_of_reach hreach
  rw [hk] at hfits
  obtain ⟨rfl, hs⟩ := hfits
  intro x _
  simp [absorbs, ht, reach_newline]

/-- A line end is a line feed. -/
theorem Whole.head?_newline {t : Token} (h : t.Whole) (hk : t.kind = .newline) :
    t.text.head? = some '\n' := by
  obtain ⟨c, s, ht, hreach⟩ := h
  have hfits := fits_of_reach hreach
  rw [hk] at hfits
  rw [ht, hfits.1, List.head?_cons]

/-- Only a line end starts with a line feed. -/
theorem Whole.kind_of_newline {t : Token} (h : t.Whole) (hx : t.text.head? = some '\n') :
    t.kind = .newline := by
  obtain ⟨c, s, ht, hreach⟩ := h
  have hc : c = '\n' := by simpa [ht] using hx
  rw [hc, reach_newline, Except.ok.injEq, Prod.mk.injEq] at hreach
  exact hreach.1.symm

/-- A comment stands before a line end or nothing, so never before a token that is not trivia. -/
theorem Whole.not_comment_of_standsBefore {t u : Token} (h : t.Whole) (hu : u.Whole)
    (hs : u.isTrivia = false) (hb : t.StandsBefore u.text) : t.kind ≠ .comment := by
  intro hk
  obtain ⟨c, s, hc, -⟩ := id hu
  have hnl := ((h.runsOver_comment hk).1.standsBefore_iff _).1 hb c (by simp [hc])
  have hkind : u.kind = .newline := hu.kind_of_newline (by simpa [hc] using hnl)
  rw [isTrivia, hkind] at hs
  cases hs

/-- Trivia that is no line end has no line feed in it. -/
theorem Whole.ne_newline {t : Token} (h : t.Whole) (ht : t.isTrivia = true)
    (hk : t.kind ≠ .newline) : ∀ x ∈ t.text, decide (x ≠ '\n') = true := by
  intro x hx
  cases hkind : t.kind <;> simp_all [isTrivia, TokenKind.isTrivia]
  case comment => simpa using (h.runsOver_comment hkind).2 x hx
  case whitespace =>
    have := (h.runsOver_whitespace hkind).2 x hx
    rintro rfl
    rw [isSpacing_newline] at this
    cases this

/-! ## The first line of a run -/

/-- Whether all that stands on the first line of a run is trivia. -/
def blankLine : List Token → Bool
  | [] => true
  | t :: ts => t.kind = .newline || (t.isTrivia && blankLine ts)

/-- Trivia before the end of the first line. -/
def BeforeLineEnd (ts : List Token) : Prop := ∀ t ∈ ts, t.isTrivia = true ∧ t.kind ≠ .newline

theorem beforeLineEnd_cons {t : Token} {ts : List Token} (ht : t.isTrivia = true)
    (hk : t.kind ≠ .newline) (h : BeforeLineEnd ts) : BeforeLineEnd (t :: ts) := by
  intro u hu
  rcases List.mem_cons.1 hu with rfl | hu
  · exact ⟨ht, hk⟩
  · exact h u hu

theorem BeforeLineEnd.ne_newline {o : Int} {ts : List Token} (ht : BeforeLineEnd ts)
    (h : IsScan o ts) : ∀ x ∈ textOf ts, decide (x ≠ '\n') = true := by
  intro x hx
  obtain ⟨t, hmem, hx⟩ := List.mem_flatMap.1 hx
  exact (h.whole t hmem).ne_newline (ht t hmem).1 (ht t hmem).2 x hx

theorem split_of_blankLine {ts : List Token} (h : blankLine ts = true) :
    ∃ us vs, ts = us ++ vs ∧ BeforeLineEnd us ∧ ∀ v ∈ vs.head?, v.kind = .newline := by
  induction ts with
  | nil => exact ⟨[], [], rfl, by simp [BeforeLineEnd], by simp⟩
  | cons t ts ih =>
    by_cases hk : t.kind = .newline
    · exact ⟨[], t :: ts, rfl, by simp [BeforeLineEnd], by simpa using hk⟩
    · obtain ⟨ht, hts⟩ : t.isTrivia = true ∧ blankLine ts = true := by simpa [blankLine, hk] using h
      obtain ⟨us, vs, rfl, hus, hvs⟩ := ih hts
      exact ⟨t :: us, vs, rfl, beforeLineEnd_cons ht hk hus, hvs⟩

/-! ## Joining two runs -/

/-- How a token goes on over a run: it takes in the trivia `taken` from the front, only if it is
    trivia itself, and stops before `rest`. -/
structure Takes (t : Token) (us taken rest : List Token) : Prop where
  eq : us = taken ++ rest
  trivia : ∀ v ∈ taken, v.isTrivia = true
  self : taken ≠ [] → t.isTrivia = true
  whole : (t.extend (textOf taken)).Whole
  stops : (t.extend (textOf taken)).StandsBefore (textOf rest)

theorem Whole.takes_nil {t : Token} {us : List Token} (h : t.Whole)
    (hb : t.StandsBefore (textOf us)) : t.Takes us [] us where
  eq := rfl
  trivia := by simp
  self := by simp
  whole := by simpa using h
  stops := by simpa using hb

/-- Blanks take in blanks, which are one token if there are any. -/
theorem Whole.takes_blanks {o : Int} {t : Token} {us : List Token} (h : t.Whole)
    (hk : t.kind = .whitespace) (hus : IsScan o us) : ∃ taken rest, t.Takes us taken rest := by
  obtain ⟨hruns, -⟩ := h.runsOver_whitespace hk
  by_cases hb : t.StandsBefore (textOf us)
  · exact ⟨[], us, h.takes_nil hb⟩
  · match us, hus, hb with
    | [], _, hb => exact absurd (standsBefore_nil t) hb
    | u :: us, ⟨_, hu, hub, _⟩, hb =>
      obtain ⟨c, s, hut, hreach⟩ := id hu
      have hc : isSpacing c = true := by
        rw [hruns.standsBefore_iff] at hb
        simpa [hut] using hb
      have hku : u.kind = .whitespace := by
        rw [reach_spacing hc, Except.ok.injEq, Prod.mk.injEq] at hreach
        exact hreach.1.symm
      -- The blanks that come next are one token, which goes on to where blanks end.
      obtain ⟨huruns, hutext⟩ := hu.runsOver_whitespace hku
      have hext := hruns.extend hutext
      refine ⟨[u], us, rfl, by simp [isTrivia, hku, TokenKind.isTrivia],
        by simp [isTrivia, hk, TokenKind.isTrivia], by simpa using hext.whole, ?_⟩
      rw [textOf_cons, textOf_nil, List.append_nil, hext.standsBefore_iff]
      exact (huruns.standsBefore_iff _).1 hub

/-- A comment takes in the rest of the line. -/
theorem Whole.takes_line {o : Int} {t : Token} {us : List Token} (h : t.Whole)
    (hk : t.kind = .comment) (hus : IsScan o us) (hline : blankLine us = true) :
    ∃ taken rest, t.Takes us taken rest := by
  obtain ⟨taken, rest, rfl, htaken, hrest⟩ := split_of_blankLine hline
  obtain ⟨hscan, hrestscan, -⟩ := isScan_append.1 hus
  have hext := (h.runsOver_comment hk).1.extend (htaken.ne_newline hscan)
  refine ⟨taken, rest, rfl, fun v hv => (htaken v hv).1,
    by simp [isTrivia, hk, TokenKind.isTrivia], hext.whole, ?_⟩
  rw [hext.standsBefore_iff]
  intro x hx
  match rest, hrest, hrestscan with
  | [], _, _ => cases hx
  | u :: us, hrest, hrestscan =>
    have hu := hrestscan.2.1
    obtain ⟨c, s, hut, -⟩ := id hu
    have hc := hu.head?_newline (hrest u rfl)
    rw [hut, List.head?_cons] at hc
    rw [textOf_cons, hut, List.cons_append, List.head?_cons, hc] at hx
    cases hx
    decide

/-- Whether the last token of a run takes in nothing but trivia when the run is put before another:
    a comment the rest of its line and blanks any blanks, while other tokens should take in
    nothing. -/
def cleanSeam (ts us : List Token) : Bool :=
  match ts.getLast? with
  | none => true
  | some t =>
    match t.kind with
    | .whitespace | .newline => true
    | .comment => blankLine us
    | _ => (textOf us).head?.all fun x => !t.absorbs x

theorem exists_takes_of_cleanSeam {o o' : Int} {ts us : List Token} {t : Token}
    (h : IsScan o (ts ++ [t])) (h' : IsScan o' us) (hc : cleanSeam (ts ++ [t]) us = true) :
    ∃ taken rest, t.Takes us taken rest := by
  have hw : t.Whole := h.whole t (by simp)
  rw [cleanSeam, List.getLast?_concat] at hc
  cases hk : t.kind <;> simp only [hk] at hc
  case newline => exact ⟨[], us, hw.takes_nil (hw.standsBefore_newline hk _)⟩
  case whitespace => exact hw.takes_blanks hk h'
  case comment => exact hw.takes_line hk h' hc
  all_goals
    refine ⟨[], us, hw.takes_nil fun x hx => ?_⟩
    rw [Option.mem_def.1 hx] at hc
    simpa using hc

/-- A last token that stays one token with more text is scanned so behind the tokens before it. -/
theorem isScan_extend {o : Int} {ts : List Token} {t : Token} {r : List Char}
    (h : IsScan o (ts ++ [t])) (hw : (t.extend r).Whole) : IsScan o (ts ++ [t.extend r]) := by
  obtain ⟨hts, ht, hb⟩ := isScan_append.1 h
  refine isScan_append.2 ⟨hts, ⟨ht.1, hw, standsBefore_nil _, trivial⟩, fun u hu x hx => ?_⟩
  -- The token before it sees only its first character.
  obtain ⟨c, s, hc, -⟩ := ht.2.1
  refine hb u hu x ?_
  simpa [extend, hc] using hx

/-- Two runs are scanned together when the last token of the first takes in trivia from the front of
    the second and then stops. -/
theorem isScan_join {o o' : Int} {ts us taken rest : List Token} {t : Token}
    (h : IsScan o (ts ++ [t])) (h' : IsScan o' us) (ht : t.Takes us taken rest) :
    IsScan o (ts ++ [t.extend (textOf taken)] ++
      rest.map (shift (o + (textOf (ts ++ [t])).length - o'))) := by
  refine isScan_append.2 ⟨isScan_extend h ht.whole, ?_, fun u hu => ?_⟩
  · rw [ht.eq] at h'
    have hus := (isScan_append.1 h').2.1.shift (o + (textOf (ts ++ [t])).length - o')
    have hoff : o' + (textOf taken).length + (o + (textOf (ts ++ [t])).length - o') =
        o + (textOf (ts ++ [t.extend (textOf taken)])).length := by
      simp only [textOf_append, textOf_cons, textOf_nil, List.append_nil, List.length_append,
        extend]
      omega
    rwa [hoff] at hus
  · rw [List.getLast?_concat] at hu
    cases hu
    rw [textOf_map_shift]
    exact ht.stops

/-- Whether a seam is clean depends on the last token before it, wherever that stands. -/
theorem cleanSeam_congr {ts ts' : List Token} {k : Int}
    (h : ts'.getLast? = ts.getLast?.map (shift k)) (us : List Token) :
    cleanSeam ts' us = cleanSeam ts us := by
  rw [cleanSeam, cleanSeam, h]
  cases ts.getLast? <;> rfl

theorem cleanSeam_of_blank {ts us : List Token} {t : Token}
    (hk : t.kind = .whitespace ∨ t.kind = .newline) : cleanSeam (ts ++ [t]) us = true := by
  rw [cleanSeam, List.getLast?_concat]
  rcases hk with hk | hk <;> simp [hk]

theorem cleanSeam_of_stays {ts us : List Token} {t : Token} (ht : t.isTrivia = false)
    (hb : t.StandsBefore (textOf us)) : cleanSeam (ts ++ [t]) us = true := by
  have hall : ((textOf us).head?.all fun x => !t.absorbs x) = true := by
    rw [Option.all_eq_true]
    intro x hx
    simpa using hb x hx
  rw [cleanSeam, List.getLast?_concat]
  cases hk : t.kind <;> simp_all [isTrivia, TokenKind.isTrivia]

end Token

end FormEdit
