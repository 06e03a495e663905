import FormEdit.Proofs.Document.Completion
import FormEdit.Proofs.Document.Lossless
import FormEdit.Proofs.Position

set_option autoImplicit false

/-! # Where an issue is shown

Building stops at the first closer that is refused, or at the end of the source where a form is
still open (`Document.issue_cases`), and scanning stops before a literal that is left open. Each
shows its issue at the offset where it stops, on the line and in the column that are there, in
whichever way these are counted (`Document.issue_shown`). -/

namespace FormEdit

namespace Problem

/-- The closer that shows a problem, none where it is not a closer that does. -/
def closer? : Problem → Option (List Char)
  | mismatchedClose _ _ found => some found
  | unmatchedClose found => some found
  | danglingMark _ closer => closer
  | unterminated _ => none
  | lexical _ => none

/-- Whether it is the end of the source that shows a problem. -/
def meetsEnd : Problem → Bool
  | unterminated _ => true
  | danglingMark _ none => true
  | _ => false

end Problem

/-- Whether an issue shows right behind the first tokens `us` of a source: a literal that is left
    open begins there, or the closer stands there that shows it, or the source ends there. -/
def Issue.ShowsBehind (i : Issue) (us : List Token) (source : List Char) : Prop :=
  match i.problem with
  | .lexical literal =>
    scan source = ⟨us, some literal⟩ ∧
      ∃ c r, source = Token.textOf us ++ c :: r ∧ reach c r = .error literal
  | p =>
    match p.closer? with
    | some closer => ∃ t vs, tokenize source = .ok (us ++ t :: vs) ∧ t.kind = .closer ∧
        t.text = closer ∧ t.offset = i.place.offset
    | none => tokenize source = .ok us ∧ i.place.offset = source.length

namespace Builder

variable {b b' : Builder} {t : Token} {ts : List Token} {p p' : Position}

/-- Taking in tokens moves over their text. -/
theorem position_of_run (h : b.run p ts = .ok (b', p')) : p' = p.advance (Token.textOf ts) := by
  induction ts generalizing b p with
  | nil =>
    cases h
    rfl
  | cons t ts ih =>
    rw [run] at h
    split at h
    · cases h
    · rw [ih h, Token.textOf_cons, Position.advance_append]

/-- A closer that is refused shows the problem. -/
theorem closer?_of_close {line column : Int} {i : Issue}
    (h : b.close t line column = .error (.issue i)) : i.problem.closer? = some t.text := by
  match b with
  | ⟨[], top⟩ =>
    cases h
    rfl
  | ⟨.mark m more cs :: fs, top⟩ =>
    cases h
    rfl
  | ⟨.bracket o cs :: fs, top⟩ =>
    rw [close] at h
    split at h
    · cases h
    · split at h
      · cases h
      · cases h
        rfl

end Builder

namespace Document

open Builder

variable {ts : List Token} {source : List Char} {i : Issue}

/-- What makes a document or has an issue fails only with an issue. -/
theorem exists_issue_of_error {x : Except BuildError Document} {e : BuildError}
    (hx : (∃ d, x = .ok d) ∨ ∃ i, x = .error (.issue i)) (h : x = .error e) :
    ∃ i, e = .issue i := by
  rcases hx with ⟨d, hd⟩ | ⟨i, hi⟩
  · rw [hd] at h
    cases h
  · rw [hi] at h
    cases h
    exact ⟨i, rfl⟩

/-- All that building can have met when it comes to an issue: a closer that is refused behind tokens
    that are taken in, or the end behind all of them. -/
theorem issue_cases (h : ofTokens ts source = .error (.issue i)) :
    (∃ us t vs b, ts = us ++ t :: vs ∧ t.kind = .closer ∧
      empty.run .start us = .ok (b, Position.start.advance (Token.textOf us)) ∧
      b.push t (Position.start.advance (Token.textOf us)).line
        (Position.start.advance (Token.textOf us)).column = .error (.issue i) ∧
      i.problem.closer? = some t.text ∧
      i.place = { Position.start.advance (Token.textOf us) with offset := t.offset }) ∨
    ∃ b, empty.run .start ts = .ok (b, Position.start.advance (Token.textOf ts)) ∧
      i.problem.meetsEnd = true ∧
      i.place = { Position.start.advance (Token.textOf ts) with offset := source.length } := by
  rw [ofTokens] at h
  split at h
  · next e hrun =>
    cases h
    obtain ⟨us, t, vs, b, p, rfl, hus, ht⟩ := exists_push_of_run hrun
    obtain ⟨hkind, hclose⟩ := close_of_push ht
    have hp := position_of_run hus
    subst hp
    exact .inl ⟨us, t, vs, b, rfl, hkind, hus, ht, closer?_of_close hclose,
      (issue_of_close_eq hclose).1⟩
  · next b p hrun =>
    have hp := position_of_run hrun
    subst hp
    refine .inr ⟨b, hrun, ?_⟩
    rw [finish] at h
    split at h
    · cases h
    · cases h
      exact ⟨rfl, rfl⟩
    · cases h
      exact ⟨rfl, rfl⟩

/-- An issue of a source shows behind some of its tokens, at the position behind their text. -/
theorem exists_showsBehind (h : parse source = .error (.issue i)) :
    ∃ us r, i.ShowsBehind us source ∧ source = Token.textOf us ++ r ∧
      i.place = Position.start.advance (Token.textOf us) := by
  rw [parse] at h
  split at h
  · next e he =>
    cases h
    rw [tokenize] at he
    split at he
    · cases he
    · next literal hstop =>
      cases he
      have hscan : scan source = ⟨(scan source).tokens, some literal⟩ := by rw [← hstop]
      obtain ⟨us, c, r, hus, htext, hopen⟩ := Token.exists_open_of_scanFrom hscan
      rw [List.reverse_nil, List.nil_append] at hus
      rw [← hus] at htext
      exact ⟨_, c :: r, ⟨hscan, c, r, htext, hopen⟩, htext, rfl⟩
  · next ts hts =>
    obtain ⟨htext, hscan⟩ := tokenize_eq_ok_iff.1 hts
    rcases issue_cases h with ⟨us, t, vs, b, rfl, hkind, -, -, hcloser, hplace⟩ |
      ⟨b, -, hend, hplace⟩
    · have hoffset : t.offset = (Token.textOf us).length := hscan.tiles.offset_eq
      refine ⟨us, Token.textOf (t :: vs), ?_, by rw [← htext, Token.textOf_append], ?_⟩
      · cases hp : i.problem with
        | lexical literal => simp [hp, Problem.closer?] at hcloser
        | _ =>
          rw [hp] at hcloser
          simp only [Issue.ShowsBehind, hp, hcloser]
          exact ⟨t, vs, hts, hkind, rfl, by rw [hplace]⟩
      · rw [hplace, hoffset, Position.start_advance_with]
    · refine ⟨ts, [], ?_, by rw [htext, List.append_nil], ?_⟩
      · have hoffset : i.place.offset = source.length := by rw [hplace]
        cases hp : i.problem with
        | unterminated opener => simpa only [Issue.ShowsBehind, hp] using ⟨hts, hoffset⟩
        | danglingMark mark closer =>
          rw [hp] at hend
          cases closer with
          | none => simpa only [Issue.ShowsBehind, hp] using ⟨hts, hoffset⟩
          | some c => cases hend
        | _ =>
          rw [hp] at hend
          cases hend
      · rw [hplace, ← htext, Position.start_advance_with]

/-- A source that makes no document has an issue, which shows in the source, on the line and in the
    column that are there. -/
theorem exists_issue_shown {e : BuildError} (h : parse source = .error e) :
    ∃ i us, e = .issue i ∧ i.ShowsBehind us source ∧
      0 ≤ i.place.offset ∧ i.place.offset ≤ source.length ∧
      Token.textOf us = source.take i.place.offset.toNat ∧
      i.place = Position.start.advance (source.take i.place.offset.toNat) := by
  obtain ⟨i, rfl⟩ := exists_issue_of_error (parse_total source) h
  obtain ⟨us, r, hshows, htext, hplace⟩ := exists_showsBehind h
  have hoffset : i.place.offset = (Token.textOf us).length := by
    rw [hplace, Position.advance_offset]
    exact Int.zero_add _
  have htake : source.take i.place.offset.toNat = Token.textOf us := by
    rw [hoffset, Int.toNat_natCast, htext, List.take_left]
  have hle : (Token.textOf us).length ≤ source.length := by
    rw [htext, List.length_append]
    omega
  refine ⟨i, us, rfl, hshows, by omega, by omega, htake.symm, ?_⟩
  rw [htake]
  exact hplace

/-- Every source that makes no document has an issue. It lies in the source, where a literal is left
    open, where a closer stands or where the source ends, and its line and column are those behind
    the text before it. These are the same on every text whether it is moved over character by
    character or at once, counted as a whole, or kept track of token by token. -/
theorem issue_shown :
    (∀ source e, parse source = .error e → ∃ i us, e = .issue i ∧ i.ShowsBehind us source ∧
      0 ≤ i.place.offset ∧ i.place.offset ≤ source.length ∧
      Token.textOf us = source.take i.place.offset.toNat ∧
      i.place = Position.start.advance (source.take i.place.offset.toNat)) ∧
    (∀ (p : Position) text, p.advance text = p.jump text) ∧
    (∀ text, Position.start.advance text = Position.counted text) ∧
    ∀ (p : Position) (ts : List Token), ts.foldl (fun q t => q.track t.text) p =
      { p.advance (Token.textOf ts) with offset := p.offset } :=
  ⟨fun _ _ h => exists_issue_shown h, Position.advance_eq_jump, Position.start_advance_eq_counted,
    Position.foldl_track⟩

set_option maxRecDepth 20000 in
/-- Behind a string over two lines and a character literal of a line feed. -/
theorem issue_shown_behind_lines :
    let i : Issue := ⟨.mismatchedClose ['('] [')'] [']'], ⟨7, 3, 1⟩⟩
    parse "(\"\n\" \\\n]".toList = .error (.issue i) ∧
    Position.counted ("(\"\n\" \\\n]".toList.take 7) = ⟨7, 3, 1⟩ ∧
    ∃ us, i.ShowsBehind us "(\"\n\" \\\n]".toList ∧
      us.foldl (fun (p : Position) (t : Token) => p.track t.text) Position.start = ⟨0, 3, 1⟩ := by
  intro i
  have h : parse "(\"\n\" \\\n]".toList =
      .error (.issue ⟨.mismatchedClose ['('] [')'] [']'], ⟨7, 3, 1⟩⟩) := by cbv
  obtain ⟨hissue, -, hcounted, htrack⟩ := issue_shown
  obtain ⟨j, us, hj, hshows, -, -, htext, hplace⟩ := hissue _ _ h
  rw [BuildError.issue.injEq] at hj
  subst hj
  refine ⟨h, ?_, us, hshows, ?_⟩
  · rw [← hcounted]
    exact hplace.symm
  · rw [htrack, htext, ← hplace]
    rfl

end Document

end FormEdit
