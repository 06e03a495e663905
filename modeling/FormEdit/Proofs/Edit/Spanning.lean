import FormEdit.Document.Cursor
import FormEdit.Proofs.Edit.Wrap
import Mathlib

set_option autoImplicit false

/-! # The form that spans a line

What is located at a line of a source is the first top-level form whose lines include it, and there
is none only if the source is not well formed or no form includes the line
(`locate_first_spanning`). Forms start in order of their lines, so further down in the source forms
further behind are located. -/

namespace FormEdit

namespace Document

variable {d : Document} {i j : Nat} {m n : Node} {line line' : Int}

/-- Nodes start in order of their lines. -/
theorem startLine_le (h : i ≤ j) : d.startLine i ≤ d.startLine j := by
  have hprefix : d.nodes.take i <+: d.nodes.take j := List.take_prefix_take_left h
  obtain ⟨between, hbetween⟩ := hprefix
  rw [startLine, startLine, ← hbetween, Node.textOf_append, List.count_append]
  omega

/-- The lines of a form are lines of a text, which are counted from one. -/
theorem Spans.one_le (h : d.Spans line i n) : 1 ≤ line := by
  have hstart := h.2.2.1
  rw [startLine] at hstart
  omega

/-- A form that includes a line starts before a form that includes a line further down, or is the
    first of the two at that line as well. -/
theorem IsFormAt.le (hi : d.IsFormAt line i n) (hj : d.IsFormAt line' j m) (h : line ≤ line') :
    i ≤ j := by
  by_contra hlt
  -- The form in front starts above the other one and reaches beyond it, so it has both lines.
  have hstart : d.startLine j ≤ d.startLine i := startLine_le (by omega)
  obtain ⟨hm, hform, -, hend⟩ := hj.1
  have hspans : d.Spans line j m := by
    have hline : d.startLine i ≤ line := hi.1.2.2.1
    exact ⟨hm, hform, by omega, by omega⟩
  exact hlt (hi.2 j m hspans)

/-- Among the forms that include a line one is the first. -/
theorem Spans.exists_isFormAt (h : d.Spans line i n) : ∃ j m, d.IsFormAt line j m := by
  classical
  have hex : ∃ j, ∃ m, d.Spans line j m := ⟨i, n, h⟩
  obtain ⟨m, hm⟩ := Nat.find_spec hex
  exact ⟨Nat.find hex, m, hm, fun j m' hj => Nat.find_min' hex ⟨m', hj⟩⟩

/-- The cursor on a top-level node tells its place. -/
theorem cursor_placed (hn : d.nodes[i]? = some n) :
    let c : Cursor := ⟨d, some (i, [])⟩
    c.node? = some n ∧ c.position? = some (d.placed i n).start ∧
      c.endLine? = some (d.placed i n).endLine := by
  intro c
  have hnode : c.node? = some n := hn
  have hposition : c.position? = some (d.placed i n).start := by
    show (d.nodes[i]?).map _ = _
    rw [hn]
    rfl
  refine ⟨hnode, hposition, ?_⟩
  rw [Cursor.endLine?, hposition, hnode]
  simp [Node.endLine, placed, startLine, Position.advance_line, Position.start]

end Document

variable {source : List Char} {line : Int} {d : Document}

theorem locate_of_parse (hd : Document.parse source = .ok d) (hline : 1 ≤ line) :
    locate source line = d.locate line := by
  rw [locate, if_neg (by omega), hd]

/-- The first form whose lines include a line is located there. -/
theorem locate_of_isFormAt {i : Nat} {n : Node} (hd : Document.parse source = .ok d)
    (h : d.IsFormAt line i n) : locate source line = some (d.placed i n) := by
  rw [locate_of_parse hd h.1.one_le]
  exact Document.locate_eq_some_iff.2 ⟨i, n, h, rfl⟩

/-- Where a form includes a line, one is located there. -/
theorem exists_locate_of_spans {i : Nat} {n : Node} (hd : Document.parse source = .ok d)
    (h : d.Spans line i n) : ∃ f, locate source line = some f := by
  obtain ⟨j, m, hat⟩ := h.exists_isFormAt
  exact ⟨_, locate_of_isFormAt hd hat⟩

theorem locate_eq_none_iff : locate source line = none ↔
    line < 1 ∨ (∃ e, Document.parse source = .error e) ∨
      ∃ d, Document.parse source = .ok d ∧ ∀ i n, ¬ d.Spans line i n := by
  constructor
  · intro h
    by_cases hline : line < 1
    · exact .inl hline
    cases hd : Document.parse source with
    | error e => exact .inr (.inl ⟨e, rfl⟩)
    | ok d =>
      refine .inr (.inr ⟨d, rfl, fun i n hspans => ?_⟩)
      obtain ⟨f, hf⟩ := exists_locate_of_spans hd hspans
      rw [hf] at h
      cases h
  · intro h
    cases hf : locate source line with
    | none => rfl
    | some f =>
      obtain ⟨d, i, n, hline, hd, hat, -⟩ := exists_placed_of_locate hf
      rcases h with hlt | ⟨e, he⟩ | ⟨d', hd', hno⟩
      · omega
      · rw [hd] at he
        cases he
      · rw [hd] at hd'
        cases hd'
        exact absurd hat.1 (hno i n)

/-- Where a located form is in its source: the text is that of the source at its offset, it starts
    on the line that is there, and ends as many lines further down as it has line feeds. -/
theorem place_of_locate {f : LocatedForm} (h : locate source line = some f) :
    ∃ k : Nat, f.start.offset = k ∧ f.text = (source.drop k).take f.text.length ∧
      f.startLine = 1 + (source.take k).count '\n' ∧
      f.endLine = f.startLine + f.text.count '\n' ∧
      f.startLine ≤ line ∧ line ≤ f.endLine := by
  obtain ⟨d, i, n, -, hd, ⟨⟨hn, -, hstart, hend⟩, -⟩, rfl⟩ := exists_placed_of_locate h
  obtain ⟨k, hk, hbefore, htext, -⟩ := Document.exists_start_placed hd hn
  have hline : (d.placed i n).startLine = d.startLine i := by
    simp [LocatedForm.startLine, Document.placed, Position.advance_line, Document.startLine,
      Position.start]
  refine ⟨k, hk, htext.symm, ?_, ?_, ?_, hend⟩
  · rw [hline, Document.startLine, hbefore]
  · rw [hline]
    rfl
  · rw [hline]
    exact hstart

/-- What is located at a line is the first of the top-level forms, in the order of the document,
    whose lines include it. There is none exactly if the line is no line, the source is not well
    formed, or no form includes the line; so each line of a form has a form located on it. The form
    has the text of the source at its offset, its lines are counted by line feeds, and the cursor at
    it tells the same. Further down in the source the forms that are located are the same or
    further behind. -/
theorem locate_first_spanning (source : List Char) :
    (∀ t f, locate source t = some f ↔ ∃ d i n, 1 ≤ t ∧ Document.parse source = .ok d ∧
      d.IsFormAt t i n ∧ f = d.placed i n) ∧
    (∀ t, locate source t = none ↔ t < 1 ∨ (∃ e, Document.parse source = .error e) ∨
      ∃ d, Document.parse source = .ok d ∧ ∀ i n, ¬ d.Spans t i n) ∧
    (∀ d t i n, Document.parse source = .ok d → d.Spans t i n → ∃ f, locate source t = some f) ∧
    (∀ t f, locate source t = some f →
      (∃ k : Nat, f.start.offset = k ∧ f.text = (source.drop k).take f.text.length ∧
        f.startLine = 1 + (source.take k).count '\n' ∧
        f.endLine = f.startLine + f.text.count '\n' ∧ f.startLine ≤ t ∧ t ≤ f.endLine) ∧
      ∃ c : Cursor, c.place = some (f.index, []) ∧ Document.parse source = .ok c.document ∧
        c.node? = some f.node ∧ c.position? = some f.start ∧ c.endLine? = some f.endLine) ∧
    ∀ t t' f g, t ≤ t' → locate source t = some f → locate source t' = some g →
      f.index ≤ g.index := by
  refine ⟨fun t f => ⟨exists_placed_of_locate, ?_⟩, fun t => locate_eq_none_iff,
    fun d t i n => exists_locate_of_spans, fun t f h => ⟨place_of_locate h, ?_⟩, ?_⟩
  · rintro ⟨d, i, n, -, hd, hat, rfl⟩
    exact locate_of_isFormAt hd hat
  · obtain ⟨d, i, n, -, hd, hat, rfl⟩ := exists_placed_of_locate h
    exact ⟨⟨d, some (i, [])⟩, rfl, hd, Document.cursor_placed hat.1.1⟩
  · intro t t' f g hle hf hg
    obtain ⟨d, i, n, -, hd, hi, rfl⟩ := exists_placed_of_locate hf
    obtain ⟨d', j, m, -, hd', hj, rfl⟩ := exists_placed_of_locate hg
    rw [hd] at hd'
    cases hd'
    exact hi.le hj hle

/-- On a line that two forms share the first is located, and the second where it alone goes on. -/
theorem locate_first_spanning_shared_line :
    let source := ['a', '(', 'b', '\n', ')']
    let list : Node := .delimited .list ⟨.opener, ['('], 1⟩
      [.leaf ⟨.atom, ['b'], 2⟩, .leaf ⟨.newline, ['\n'], 3⟩] ⟨.closer, [')'], 4⟩
    Document.parse source = .ok ⟨[.leaf ⟨.atom, ['a'], 0⟩, list], source⟩ ∧
    locate source 1 = some ⟨0, .leaf ⟨.atom, ['a'], 0⟩, ⟨0, 1, 1⟩, 1⟩ ∧
    locate source 2 = some ⟨1, list, ⟨1, 1, 2⟩, 2⟩ ∧ locate source 3 = none ∧ 0 ≤ 1 := by
  intro source list
  have hd : Document.parse source = .ok ⟨[.leaf ⟨.atom, ['a'], 0⟩, list], source⟩ := by cbv
  have hfirst : locate source 1 = some ⟨0, .leaf ⟨.atom, ['a'], 0⟩, ⟨0, 1, 1⟩, 1⟩ := by
    rw [locate_of_parse hd (by decide)]
    rfl
  have hsecond : locate source 2 = some ⟨1, list, ⟨1, 1, 2⟩, 2⟩ := by
    rw [locate_of_parse hd (by decide)]
    rfl
  have hthird : locate source 3 = none := by
    rw [locate_of_parse hd (by decide)]
    rfl
  obtain ⟨-, -, -, -, hbehind⟩ := locate_first_spanning source
  exact ⟨hd, hfirst, hsecond, hthird, hbehind 1 2 _ _ (by decide) hfirst hsecond⟩

end FormEdit
