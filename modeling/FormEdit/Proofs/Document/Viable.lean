import FormEdit.Proofs.Document.Issue

set_option autoImplicit false

/-! # Runs of tokens that can be completed

Building takes in a run of tokens as long as other tokens can complete it. Where forms are open
there is always a token that they wait for, so what has been taken in can be completed. Where a
closer is refused nothing can. So an issue is told at the first token with which the run is lost,
and one at the end of the run is told of a run that is not lost (`Document.issue_unavoidable`). -/

namespace FormEdit

namespace Builder

variable {b : Builder} {ts : List Token} {p : Position}

/-- Whether a token has the text of some bracket, if it opens or closes a form. -/
def Bracketing (t : Token) : Prop :=
  Known t ∧ (t.kind = .closer → ∃ br : Bracket, t.text = br.closing)

/-- Whether a run of tokens can be completed: with some tokens of known brackets behind it, it is
    built. -/
def Viable (ts : List Token) : Prop :=
  ∃ r, (∀ t ∈ r, Bracketing t) ∧ ∀ source, ∃ d, Document.ofTokens (ts ++ r) source = .ok d

/-- Where forms are open, the innermost waits for a token: a bracket for its closer, and a mark for
    a form. -/
theorem exists_waited (hb : b.Proper) (hknown : ∀ o ∈ b.openers, Known o) (hopen : b.frames ≠ [])
    (line column : Int) :
    ∃ t b', Bracketing t ∧ b.push t line column = .ok b' ∧
      missing b'.frames < missing b.frames := by
  obtain ⟨frames, top⟩ := b
  cases frames with
  | nil => exact absurd rfl hopen
  | cons f fs =>
    cases f with
    | mark m more cs =>
      have hatom : Bracketing ⟨.atom, ['x'], 0⟩ :=
        ⟨fun hk => (by cases hk), fun hk => (by cases hk)⟩
      exact ⟨_, _, hatom, rfl, missing_attach_lt ..⟩
    | bracket o cs =>
      obtain ⟨br, hbr⟩ := hknown o (List.mem_cons_self ..) (proper_cons.1 hb).1.1
      have hcloser : Bracketing ⟨.closer, br.closing, 0⟩ :=
        ⟨fun hk => (by cases hk), fun _ => ⟨br, rfl⟩⟩
      have hpush : push ⟨.closer, br.closing, 0⟩ line column ⟨.bracket o cs :: fs, top⟩ =
          .ok (attach (.delimited br o cs.reverse ⟨.closer, br.closing, 0⟩) fs top) := by
        rw [push, close, hbr, Bracket.ofOpening?_opening]
        simp only [if_true]
      exact ⟨_, _, hcloser, hpush, Nat.lt_succ_of_le (missing_attach_le _ fs top)⟩

/-- Tokens that are waited for, one after the other, close all forms. -/
theorem exists_completion (hb : b.Proper) (hknown : ∀ o ∈ b.openers, Known o) (p : Position) :
    ∃ r b' p', (∀ t ∈ r, Bracketing t) ∧ b.run p r = .ok (b', p') ∧ b'.frames = [] := by
  induction hlen : missing b.frames using Nat.strongRecOn generalizing b p with
  | ind len ih =>
    by_cases hopen : b.frames = []
    · exact ⟨[], b, p, by simp, rfl, hopen⟩
    · obtain ⟨t, b₁, ht, hpush, hless⟩ := exists_waited hb hknown hopen p.line p.column
      obtain ⟨r, b', p', hr, hrun, hclosed⟩ := ih _ (hlen ▸ hless) (push_eq_ok hpush hb).1
        (known_of_push hpush ht.1 hknown) (p.advance t.text) rfl
      refine ⟨t :: r, b', p', ?_, ?_, hclosed⟩
      · simpa using ⟨ht, hr⟩
      · rw [run, hpush]
        exact hrun

/-- What has been taken in can be completed. -/
theorem viable_of_run (hts : ∀ t ∈ ts, Known t) (hrun : empty.run .start ts = .ok (b, p)) :
    Viable ts := by
  have hknown := known_of_run hrun hts (by simp [openers, empty])
  obtain ⟨r, b', p', hr, hclose, hclosed⟩ :=
    exists_completion (run_eq_ok hrun proper_empty).1 hknown p
  refine ⟨r, hr, fun source => ⟨⟨b'.top.reverse, source⟩, ?_⟩⟩
  simp only [Document.ofTokens, run_append hrun, hclose, finish, hclosed]

end Builder

namespace Document

open Builder

variable {ts : List Token} {source : List Char}

/-- What is refused at a token is refused there whatever tokens come behind it. -/
theorem ofTokens_append_error {us : List Token} {t : Token} {b : Builder} {p : Position}
    {e : BuildError} (hus : empty.run .start us = .ok (b, p))
    (ht : b.push t p.line p.column = .error e) (r : List Token) (source : List Char) :
    ofTokens (us ++ [t] ++ r) source = .error e := by
  rw [List.append_assoc, List.singleton_append, ofTokens, run_append_error hus ht]

/-- An issue is told as soon as it cannot be avoided, and no sooner. Where tokens whose openers are
    known make no document there is an issue. Either it shows at a closer: what stands before the
    closer can be completed, and every run of tokens that goes on from the closer has this same
    issue. Or it shows at the end, and the whole run can be completed. -/
theorem issue_unavoidable {e : BuildError} (hts : ∀ t ∈ ts, Known t)
    (h : ofTokens ts source = .error e) :
    ∃ i, e = .issue i ∧
      ((∃ k t, ts[k]? = some t ∧ t.kind = .closer ∧ i.problem.closer? = some t.text ∧
          i.place = { Position.start.advance (Token.textOf (ts.take k)) with offset := t.offset } ∧
          Viable (ts.take k) ∧
          ∀ r source', ofTokens (ts.take (k + 1) ++ r) source' = .error (.issue i)) ∨
        (i.problem.meetsEnd = true ∧
          i.place = { Position.start.advance (Token.textOf ts) with offset := source.length } ∧
          Viable ts)) := by
  obtain ⟨i, rfl⟩ := exists_issue_of_error (ofTokens_total hts source) h
  refine ⟨i, rfl, ?_⟩
  rcases issue_cases h with ⟨us, t, vs, b, rfl, hkind, hus, ht, hcloser, hplace⟩ |
    ⟨b, hrun, hend, hplace⟩
  · have htake : (us ++ t :: vs).take (us.length + 1) = us ++ [t] := by
      rw [List.take_length_add_append]
      rfl
    refine .inl ⟨us.length, t, by simp, hkind, hcloser, ?_, ?_, fun r source' => ?_⟩
    · rw [List.take_left, hplace]
    · rw [List.take_left]
      exact viable_of_run (fun u hu => hts u (List.mem_append_left _ hu)) hus
    · rw [htake]
      exact ofTokens_append_error hus ht r source'
  · exact .inr ⟨hend, hplace, viable_of_run hts hrun⟩

/-- A description that lacks what it describes, before the closer of a set. -/
theorem issue_unavoidable_behind_description :
    let us : List Token := [⟨.opener, ['#', '{'], 0⟩, ⟨.mark, ['^'], 2⟩, ⟨.atom, ['a'], 3⟩]
    let t : Token := ⟨.closer, ['}'], 4⟩
    let i : Issue := ⟨.danglingMark ['^'] (some ['}']), ⟨4, 1, 5⟩⟩
    ofTokens (us ++ [t]) "#{^a}".toList = .error (.issue i) ∧ Viable us ∧
      ∀ r source, ofTokens (us ++ [t] ++ r) source = .error (.issue i) := by
  intro us t i
  have h : ofTokens (us ++ [t]) "#{^a}".toList = .error (.issue i) := rfl
  have hts : ∀ u ∈ us ++ [t], Known u := by
    intro u hu hk
    simp only [us, t, List.cons_append, List.nil_append, List.mem_cons, List.not_mem_nil,
      or_false] at hu
    rcases hu with rfl | rfl | rfl | rfl
    · exact ⟨.set, rfl⟩
    all_goals cases hk
  obtain ⟨j, hj, ⟨k, u, hu, hkind, -, -, hviable, hrefused⟩ | ⟨hend, -⟩⟩ := issue_unavoidable hts h
  · rw [BuildError.issue.injEq] at hj
    subst hj
    -- The closer is the last of the tokens.
    have hk : k = 3 := by
      match k, hu with
      | 0, hu => cases hu; cases hkind
      | 1, hu => cases hu; cases hkind
      | 2, hu => cases hu; cases hkind
      | 3, _ => rfl
      | k + 4, hu => simp [us, t] at hu
    subst hk
    exact ⟨h, hviable, hrefused⟩
  · rw [BuildError.issue.injEq] at hj
    subst hj
    cases hend

end Document

end FormEdit
