import FormEdit.Proofs.Document.Lines
import Mathlib

set_option autoImplicit false

/-! # Sources that can be completed

A source whose tokens are all taken in can be completed: each form that is still open waits for a
closer or for other forms, and a token that it waits for leaves fewer to be waited for. A closer that
is refused stays one whatever comes behind it. So the text before an issue can be completed exactly
if it holds no such closer (`Document.completable_before_issue`). -/

namespace FormEdit

/-- Whether some text behind a source makes it well formed. -/
def Completable (s : List Char) : Prop := ∃ r d, Document.parse (s ++ r) = .ok d

/-- Whether a problem is that a closer is refused where it stands. -/
def Problem.refusesCloser : Problem → Bool
  | mismatchedClose .. => true
  | unmatchedClose _ => true
  | danglingMark _ closer => closer.isSome
  | unterminated _ => false
  | lexical _ => false

namespace Builder

/-! ## Tokens that are refused -/

variable {b b' : Builder} {t : Token} {ts : List Token} {line column : Int} {p p' : Position}

/-- The issue of a closer that is refused is there where the closer is. -/
theorem issue_of_close_eq {i : Issue} (h : b.close t line column = .error (.issue i)) :
    i.place = ⟨t.offset, line, column⟩ ∧ i.problem.refusesCloser = true := by
  match b with
  | ⟨[], top⟩ =>
    cases h
    exact ⟨rfl, rfl⟩
  | ⟨.mark m more cs :: fs, top⟩ =>
    cases h
    exact ⟨rfl, rfl⟩
  | ⟨.bracket o cs :: fs, top⟩ =>
    rw [close] at h
    split at h
    · cases h
    · split at h
      · cases h
      · cases h
        exact ⟨rfl, rfl⟩

/-- A run that fails does so at its first token that is refused. -/
theorem exists_push_of_run {e : BuildError} (h : b.run p ts = .error e) :
    ∃ us t vs b' p', ts = us ++ t :: vs ∧ b.run p us = .ok (b', p') ∧
      b'.push t p'.line p'.column = .error e := by
  induction ts generalizing b p with
  | nil => cases h
  | cons t ts ih =>
    rw [run] at h
    cases hpush : b.push t p.line p.column with
    | error e' =>
      rw [hpush] at h
      cases h
      exact ⟨[], t, ts, b, p, rfl, rfl, hpush⟩
    | ok b₁ =>
      rw [hpush] at h
      obtain ⟨us, u, vs, b', p', rfl, hrun, hu⟩ := ih h
      refine ⟨t :: us, u, vs, b', p', rfl, ?_, hu⟩
      rw [run, hpush]
      exact hrun

/-- What was refused is refused with more tokens behind it. -/
theorem run_append_error {us : List Token} {e : BuildError} (h : b.run p us = .ok (b', p'))
    (ht : b'.push t p'.line p'.column = .error e) (vs : List Token) :
    b.run p (us ++ t :: vs) = .error e := by
  rw [run_append h, run, ht]

theorem known_of_run (h : b.run p ts = .ok (b', p')) (hts : ∀ t ∈ ts, Known t)
    (hb : ∀ o ∈ b.openers, Known o) : ∀ o ∈ b'.openers, Known o := by
  induction ts generalizing b p with
  | nil =>
    cases h
    exact hb
  | cons t ts ih =>
    rw [run] at h
    split at h
    · cases h
    · next b₁ hpush =>
      exact ih h (fun u hu => hts u (List.mem_cons_of_mem _ hu))
        (known_of_push hpush (hts t (List.mem_cons_self ..)) hb)

/-! ## What open forms wait for -/

/-- How many tokens open forms wait for: each bracket for its closer, each mark for its forms. -/
def missing : List Frame → Nat
  | [] => 0
  | .bracket .. :: fs => missing fs + 1
  | .mark _ more _ :: fs => missing fs + more + 1

/-- A form that is completed leaves no more to be waited for. -/
theorem missing_attach_le (n : Node) (fs : List Frame) (top : List Node) :
    missing (attach n fs top).frames ≤ missing fs := by
  induction fs generalizing n with
  | nil => exact Nat.le_refl 0
  | cons f fs ih =>
    match f with
    | .bracket o cs => exact Nat.le_refl _
    | .mark m (more + 1) cs =>
      simp only [attach, missing]
      omega
    | .mark m 0 cs =>
      have := ih (.marked m (n :: cs).reverse)
      simp only [attach, missing]
      omega

/-- A mark takes in a form that it waits for. -/
theorem missing_attach_lt (n : Node) (m : Token) (more : Nat) (cs : List Node) (fs : List Frame)
    (top : List Node) :
    missing (attach n (.mark m more cs :: fs) top).frames < missing (.mark m more cs :: fs) := by
  cases more with
  | zero =>
    have := missing_attach_le (.marked m (n :: cs).reverse) fs top
    simp only [attach, missing]
    omega
  | succ more =>
    simp only [attach, missing]
    omega

/-- Whether a builder has taken in all tokens of a text and is left with `b`. -/
def Reads (s : List Char) (b : Builder) : Prop :=
  ∃ ts p, Token.textOf ts = s ∧ Token.IsScan 0 ts ∧ empty.run .start ts = .ok (b, p)

/-- One more token on a line of its own, which leaves less to be waited for. -/
theorem Reads.exists_line {s : List Char} (h : Reads s b) (k : TokenKind) (text : List Char)
    (hw : Token.Whole ⟨k, text, 0⟩)
    (hpush : ∀ o o' line column, ∃ b', (b.put (.leaf (Token.lineFeed o))).push ⟨k, text, o'⟩ line
      column = .ok b' ∧ missing b'.frames < missing b.frames) :
    ∃ b', Reads (s ++ '\n' :: text) b' ∧ missing b'.frames < missing b.frames := by
  obtain ⟨ts, p, htext, hscan, hrun⟩ := h
  have hone : Token.IsScan 0 [⟨k, text, 0⟩] := ⟨rfl, hw, Token.standsBefore_nil _, trivial⟩
  have hline := hscan.append_lineFeed hone rfl
  generalize (0 : Int) + (Token.textOf ts).length = o at hline
  obtain ⟨b', hb', hless⟩ := hpush o (o + 1) (p.advance ['\n']).line (p.advance ['\n']).column
  refine ⟨b', ⟨_, (p.advance ['\n']).advance text, ?_, hline, ?_⟩, hless⟩
  · simp [htext, Token.lineFeed]
  · have hfeed : b.push (Token.lineFeed o) p.line p.column =
        .ok (b.put (.leaf (Token.lineFeed o))) := push_alone rfl ..
    have hshift : (0 : Int) + (o + 1 - 0) = o + 1 := by omega
    rw [run_append hrun, run, hfeed]
    simp only [List.map_cons, List.map_nil, Token.shift, hshift, run, Token.lineFeed] at hb' ⊢
    rw [hb']

/-- Where forms are open, there is a token that they wait for. -/
theorem Reads.exists_less {s : List Char} (h : Reads s b) (hopen : b.frames ≠ []) :
    ∃ r b', Reads (s ++ r) b' ∧ missing b'.frames < missing b.frames := by
  obtain ⟨ts, p, -, hscan, hrun⟩ := id h
  have hproper := (run_eq_ok hrun proper_empty).1
  have hknown := known_of_run hrun (fun t ht => Document.known_of_whole (hscan.whole t ht))
    (by simp [openers, empty])
  obtain ⟨frames, top⟩ := b
  cases frames with
  | nil => exact absurd rfl hopen
  | cons f fs =>
    cases f with
    | mark m more cs =>
      obtain ⟨b', hb', hless⟩ := h.exists_line .atom ['x'] ⟨'x', [], rfl, rfl⟩
        fun o o' line column => ⟨_, rfl, missing_attach_lt ..⟩
      exact ⟨_, b', hb', hless⟩
    | bracket o cs =>
      obtain ⟨br, hbr⟩ := hknown o (List.mem_cons_self ..) (proper_cons.1 hproper).1.1
      have hw : Token.Whole ⟨.closer, br.closing, 0⟩ := by
        cases br <;> exact ⟨_, [], rfl, rfl⟩
      have hpush (k k' line column : Int) :
          (put (.leaf (Token.lineFeed k)) ⟨.bracket o cs :: fs, top⟩).push ⟨.closer, br.closing, k'⟩
            line column = .ok (attach (.delimited br o (.leaf (Token.lineFeed k) :: cs).reverse
              ⟨.closer, br.closing, k'⟩) fs top) := by
        rw [put_bracket, push, close, hbr, Bracket.ofOpening?_opening]
        simp only [if_true]
      obtain ⟨b', hb', hless⟩ := h.exists_line .closer br.closing hw
        fun k k' line column => ⟨_, hpush .., Nat.lt_succ_of_le (missing_attach_le _ fs top)⟩
      exact ⟨_, b', hb', hless⟩

/-- What has been taken in as a whole can be completed. -/
theorem Reads.completable {s : List Char} (h : Reads s b) : Completable s := by
  induction hlen : missing b.frames using Nat.strongRecOn generalizing b s with
  | ind len ih =>
    by_cases hopen : b.frames = []
    · obtain ⟨ts, p, htext, hscan, hrun⟩ := h
      refine ⟨[], ⟨b.top.reverse, s⟩, ?_⟩
      rw [List.append_nil, Document.parse, tokenize_eq_ok_iff.2 ⟨htext, hscan⟩]
      simp only [Document.ofTokens, hrun, finish, hopen]
    · obtain ⟨r, b', hb', hless⟩ := h.exists_less hopen
      obtain ⟨r', d, hd⟩ := ih _ (hlen ▸ hless) hb' rfl
      exact ⟨r ++ r', d, by rw [← List.append_assoc]; exact hd⟩

end Builder

namespace Document

open Token

/-! ## What cannot be completed -/

variable {source : List Char} {d : Document} {ts : List Token}

/-- Where a closer is refused, nothing behind it helps. -/
theorem not_completable {e : BuildError} (hscan : IsScan 0 ts)
    (hrun : Builder.empty.run .start ts = .error e) : ¬Completable (textOf ts) := by
  rintro ⟨r, d, hd⟩
  obtain ⟨us, t, vs, b, p, rfl, hus, ht⟩ := Builder.exists_push_of_run hrun
  obtain ⟨-, htext, hds, hproper⟩ := parse_eq_ok_iff.1 hd
  rw [← List.singleton_append, ← List.append_assoc] at hscan htext
  have hfront := (isScan_append.1 hscan).1
  have hcloser : ∀ u ∈ (us ++ [t]).getLast?, u.StandsBefore (textOf vs ++ r) := by
    intro u hu
    rw [List.getLast?_concat, Option.mem_some_iff] at hu
    have hw : t.Whole := hfront.whole t (by simp)
    rw [← hu]
    exact hw.standsBefore_closer (Builder.close_of_push ht).1 _
  -- The longer text is scanned to the same closer, which is refused there as well.
  obtain ⟨ws, hws, -, -⟩ := hfront.exists_append hcloser hds
    (by rw [← List.append_assoc, ← textOf_append]; exact htext)
  have hwhole := Builder.run_nodes hproper
  rw [hws, List.append_assoc, List.singleton_append, Builder.run_append_error hus ht] at hwhole
  cases hwhole

/-- A scanned text can be completed exactly if all its tokens are taken in. -/
theorem completable_iff (hscan : IsScan 0 ts) :
    Completable (textOf ts) ↔ ∃ b p, Builder.empty.run .start ts = .ok (b, p) := by
  constructor
  · intro h
    cases hrun : Builder.empty.run .start ts with
    | error e => exact absurd h (not_completable hscan hrun)
    | ok bp => exact ⟨bp.1, bp.2, rfl⟩
  · rintro ⟨b, p, hrun⟩
    exact Builder.Reads.completable ⟨ts, p, rfl, hscan, hrun⟩

/-- A scanned text can be completed exactly if reading it by itself meets no closer that is
    refused. -/
theorem completable_iff_parse (hscan : IsScan 0 ts) :
    Completable (textOf ts) ↔
      ∀ j, parse (textOf ts) = .error (.issue j) → j.problem.refusesCloser = false := by
  have hparse : parse (textOf ts) = ofTokens ts (textOf ts) := by
    rw [parse, tokenize_eq_ok_iff.2 ⟨rfl, hscan⟩]
  rw [completable_iff hscan, hparse, ofTokens]
  cases hrun : Builder.empty.run .start ts with
  | error e =>
    obtain ⟨i, rfl⟩ := Builder.issue_of_run hrun
      (fun t ht => known_of_whole (hscan.whole t ht)) Builder.proper_empty
      (by simp [Builder.openers, Builder.empty])
    obtain ⟨us, t, vs, b, p, -, -, ht⟩ := Builder.exists_push_of_run hrun
    have hrefuses := (Builder.issue_of_close_eq (Builder.close_of_push ht).2).2
    constructor
    · rintro ⟨b, p, hok⟩
      cases hok
    · intro h
      rw [h i rfl] at hrefuses
      cases hrefuses
  | ok bp =>
    obtain ⟨b, p⟩ := bp
    refine ⟨fun _ j hj => ?_, fun _ => ⟨b, p, rfl⟩⟩
    simp only [Builder.finish] at hj
    split at hj
    · cases hj
    · cases hj
      rfl
    · cases hj
      rfl

/-! ## The text before an issue -/

/-- The text before an issue is scanned as it is in the source. Unless the issue is an open literal,
    its tokens are all taken in. -/
theorem exists_before_issue {i : Issue} (h : parse source = .error (.issue i)) :
    ∃ us r, textOf us ++ r = source ∧ i.place.offset = (textOf us).length ∧ IsScan 0 us ∧
      ((∀ literal, i.problem ≠ .lexical literal) →
        ∃ b p, Builder.empty.run .start us = .ok (b, p)) := by
  rw [parse] at h
  split at h
  · next e he =>
    cases h
    rw [tokenize] at he
    split at he
    · cases he
    · next literal hstop =>
      cases he
      have hscan : scanFrom [] 0 source = ⟨(scan source).tokens, some literal⟩ := by
        rw [← hstop]
        rfl
      obtain ⟨us, r, hus, htext, hs, -⟩ := exists_isScan_of_scanFrom hscan
      rw [List.reverse_nil, List.nil_append] at hus
      refine ⟨us, r, htext, ?_, hs, fun hlex => absurd rfl (hlex literal)⟩
      rw [hus]
      simp [LexicalError.issue, Position.advance_offset, Position.start]
  · next ts hts =>
    obtain ⟨htext, hscan⟩ := tokenize_eq_ok_iff.1 hts
    rw [ofTokens] at h
    split at h
    · next e hrun =>
      cases h
      obtain ⟨us, t, vs, b, p, rfl, hus, ht⟩ := Builder.exists_push_of_run hrun
      have hplace := (Builder.issue_of_close_eq (Builder.close_of_push ht).2).1
      obtain ⟨hfront, hbehind, -⟩ := isScan_append.1 hscan
      refine ⟨us, textOf (t :: vs), by rw [← textOf_append, htext], ?_, hfront, fun _ => ⟨b, p, hus⟩⟩
      rw [hplace, hbehind.1, Int.zero_add]
    · next b p hrun =>
      refine ⟨ts, [], by rw [List.append_nil, htext], ?_, hscan, fun _ => ⟨b, p, hrun⟩⟩
      rw [htext]
      rw [Builder.finish] at h
      split at h
      · cases h
      · cases h
        rfl
      · cases h
        rfl

/-- The text before an issue can be completed exactly if reading it by itself meets no closer that is
    refused. So it is the first structural problem that is reported, unless a literal that is left
    open at the end hides such a closer before it. -/
theorem completable_before_issue {i : Issue} (h : parse source = .error (.issue i)) :
    (0 ≤ i.place.offset ∧ i.place.offset ≤ source.length) ∧
    (Completable (source.take i.place.offset.toNat) ↔
      ∀ j, parse (source.take i.place.offset.toNat) = .error (.issue j) →
        j.problem.refusesCloser = false) ∧
    ((∀ literal, i.problem ≠ .lexical literal) →
      Completable (source.take i.place.offset.toNat)) := by
  obtain ⟨us, r, rfl, hoff, hscan, hrun⟩ := exists_before_issue h
  have htake : (textOf us ++ r).take i.place.offset.toNat = textOf us := by
    rw [hoff, Int.toNat_natCast, List.take_left]
  rw [htake, List.length_append]
  refine ⟨by omega, completable_iff_parse hscan, fun hlex => ?_⟩
  exact (completable_iff hscan).2 (hrun hlex)

/-- Before a closer of another bracket. -/
theorem completable_before_mismatch :
    parse "([x)".toList = .error (.issue ⟨.mismatchedClose ['['] [']'] [')'], ⟨3, 1, 4⟩⟩) ∧
    Completable "([x".toList := by
  have h : parse "([x)".toList =
      .error (.issue ⟨.mismatchedClose ['['] [']'] [')'], ⟨3, 1, 4⟩⟩) := by cbv
  exact ⟨h, (completable_before_issue h).2.2 fun literal hlex => by cases hlex⟩

/-- A string that is left open hides a closer before it. -/
theorem not_completable_before_string :
    parse ")\"".toList = .error (.issue ⟨.lexical .string, ⟨1, 1, 2⟩⟩) ∧
    ¬Completable (")\"".toList.take 1) := by
  refine ⟨by cbv, ?_⟩
  have hscan : IsScan 0 [⟨.closer, [')'], 0⟩] :=
    ⟨rfl, ⟨')', [], rfl, rfl⟩, standsBefore_nil _, trivial⟩
  exact not_completable hscan rfl

end Document

end FormEdit
