import FormEdit.Proofs.Document.Lines
import FormEdit.Proofs.Edit.Locate
import Mathlib

set_option autoImplicit false

/-! # Editing sources line by line

A well-formed source and the lines behind it do not meet: what is found on a line of both together is
what is found there in one of the two (`lines_stand_apart`). -/

namespace FormEdit

/-! ## Further down -/

/-- A position with more text above it. -/
def Position.below (offset lines : Int) (p : Position) : Position :=
  ⟨p.offset + offset, p.line + lines, p.column⟩

theorem Position.advance_below (k l : Int) (p : Position) (t : List Char) :
    (p.below k l).advance t = (p.advance t).below k l := by
  induction t generalizing p with
  | nil => rfl
  | cons c t ih =>
    have hstep : (p.below k l).step c = (p.step c).below k l := by
      by_cases hc : c = '\n'
      · simp only [step, below, if_pos hc, Int.add_right_comm]
      · simp only [step, below, if_neg hc, Int.add_right_comm]
    exact (congrArg (advance · t) hstep).trans (ih (p.step c))

/-- A form that was found, with more nodes and text above it. -/
def LocatedForm.below (nodes : Nat) (offset lines : Int) (f : LocatedForm) : LocatedForm :=
  ⟨f.index + nodes, f.node.shift offset, f.start.below offset lines, f.endLine + lines⟩

theorem placedForms_below (m : Nat) (k l : Int) (i : Nat) (here : Position) (ns : List Node) :
    placedForms (i + m) (here.below k l) (ns.map (Node.shift k)) =
      (placedForms i here ns).map (LocatedForm.below m k l) := by
  induction ns generalizing i here with
  | nil => rfl
  | cons n ns ih =>
    rw [List.map_cons, placedForms, placedForms, Node.isTrivia_shift, Node.text_shift,
      Position.advance_below]
    have hi : i + m + 1 = i + 1 + m := by omega
    split
    · rw [hi, ih]
    · rw [hi, ih, List.map_cons]
      rfl

theorem placedForms_append (i : Nat) (here : Position) (ns ms : List Node) :
    placedForms i here (ns ++ ms) = placedForms i here ns ++
      placedForms (i + ns.length) (here.advance (Node.textOf ns)) ms := by
  induction ns generalizing i here with
  | nil => rfl
  | cons n ns ih =>
    have hi : i + 1 + ns.length = i + (n :: ns).length := by
      rw [List.length_cons]
      omega
    rw [List.cons_append, placedForms, placedForms, ih, hi, Node.textOf_cons,
      Position.advance_append]
    split <;> rfl

/-- Forms lie between the lines on which their row starts and ends. -/
theorem lines_of_mem_placedForms {i : Nat} {here : Position} {ns : List Node} {f : LocatedForm}
    (h : f ∈ placedForms i here ns) : here.line ≤ f.startLine ∧ f.startLine ≤ f.endLine ∧
      f.endLine ≤ (here.advance (Node.textOf ns)).line := by
  induction ns generalizing i here with
  | nil => cases h
  | cons n ns ih =>
    have hrest (hf : f ∈ placedForms (i + 1) (here.advance n.text) ns) :
        here.line ≤ f.startLine ∧ f.startLine ≤ f.endLine ∧
          f.endLine ≤ (here.advance (Node.textOf (n :: ns))).line := by
      obtain ⟨hstart, hlines, hend⟩ := ih hf
      have hline := Position.advance_line here n.text
      rw [Node.textOf_cons, Position.advance_append]
      omega
    rw [placedForms] at h
    split at h
    · exact hrest h
    · rcases List.mem_cons.1 h with rfl | hf
      · simp only [LocatedForm.startLine, Node.textOf_cons, Position.advance_line,
          List.count_append]
        omega
      · exact hrest hf

/-! ## The search in two parts -/

variable {line : Int} {fs gs : List LocatedForm}

/-- The search goes past forms that end above the line. -/
theorem formAtLine_append_of_above (h : ∀ f ∈ fs, f.startLine ≤ line ∧ f.endLine < line) :
    formAtLine line (fs ++ gs) = formAtLine line gs := by
  induction fs with
  | nil => rfl
  | cons f fs ih =>
    obtain ⟨hstart, hend⟩ := h f (by simp)
    rw [List.cons_append, formAtLine, if_neg (by omega), if_neg (by omega)]
    exact ih fun g hg => h g (by simp [hg])

/-- The search does not reach forms that start below the line. -/
theorem formAtLine_append_of_below (h : ∀ g ∈ gs, line < g.startLine) :
    formAtLine line (fs ++ gs) = formAtLine line fs := by
  induction fs with
  | nil =>
    cases gs with
    | nil => rfl
    | cons g gs =>
      simp only [List.nil_append, formAtLine]
      exact if_pos (h g (by simp))
  | cons f fs ih => rw [List.cons_append, formAtLine, formAtLine, ih]

/-- Forms further down are found on lines further down. -/
theorem formAtLine_below (m : Nat) (k l line : Int) (fs : List LocatedForm) :
    formAtLine line (fs.map (LocatedForm.below m k l)) =
      (formAtLine (line - l) fs).map (LocatedForm.below m k l) := by
  induction fs with
  | nil => rfl
  | cons f fs ih =>
    have hstart : line < (f.below m k l).startLine ↔ line - l < f.startLine := by
      simp only [LocatedForm.startLine, LocatedForm.below, Position.below]
      omega
    have hend : line ≤ (f.below m k l).endLine ↔ line - l ≤ f.endLine := by
      simp only [LocatedForm.below]
      omega
    rw [List.map_cons, formAtLine, formAtLine, ih]
    simp only [hstart, hend]
    split_ifs <;> rfl

/-! ## Two sources with a line feed between them -/

section

variable {a b : List Char} {da db : Document}

/-- The forms of two sources on lines of their own are those of the first, and those of the second
    further down. -/
theorem placedForms_line (ha : Document.parse a = .ok da) (ns : List Node) :
    placedForms 0 .start (da.nodes ++ .leaf (Token.lineFeed a.length) ::
        ns.map (Node.shift (a.length + 1))) =
      placedForms 0 .start da.nodes ++ (placedForms 0 .start ns).map
        (LocatedForm.below (da.nodes.length + 1) (a.length + 1) (1 + a.count '\n')) := by
  have hline : (Position.start.advance a).step '\n' =
      Position.start.below (a.length + 1) (1 + a.count '\n') := by
    rw [Position.step, if_pos rfl, Position.advance_offset, Position.advance_line]
    simp only [Position.below, Position.start, Position.mk.injEq]
    refine ⟨by omega, by omega, trivial⟩
  have htext : Node.textOf da.nodes = a := Document.textOf_tokensOf ha
  rw [placedForms_append, htext, ← placedForms_below, ← hline, placedForms]
  simp [Node.isTrivia, Token.isTrivia, Token.lineFeed, TokenKind.isTrivia, Node.text,
    Position.advance]

/-- A line of two sources on lines of their own is a line of one of them. -/
theorem locate_line (ha : Document.parse a = .ok da) (hb : Document.parse b = .ok db) (t : Int) :
    locate (a ++ '\n' :: b) t = if t ≤ 1 + a.count '\n' then locate a t
      else (locate b (t - (1 + a.count '\n'))).map
        (LocatedForm.below (da.nodes.length + 1) (a.length + 1) (1 + a.count '\n')) := by
  have hlast : ∀ f ∈ placedForms 0 .start da.nodes,
      f.startLine ≤ f.endLine ∧ f.endLine ≤ 1 + a.count '\n' := by
    intro f hf
    obtain ⟨-, hlines, hend⟩ := lines_of_mem_placedForms hf
    have htext : Node.textOf da.nodes = a := Document.textOf_tokensOf ha
    rw [htext, Position.advance_line] at hend
    exact ⟨hlines, hend⟩
  simp only [locate, Document.parse_line ha hb, ha, hb, Document.locate, Document.placedForms,
    placedForms_line ha]
  by_cases ht : t ≤ 1 + a.count '\n'
  · rw [if_pos ht, formAtLine_append_of_below]
    intro g hg
    obtain ⟨f, hf, rfl⟩ := List.mem_map.1 hg
    have hstart : 1 ≤ f.startLine := (lines_of_mem_placedForms hf).1
    show t < f.startLine + _
    omega
  · rw [if_neg ht, if_neg (by omega), if_neg (by omega), formAtLine_append_of_above,
      formAtLine_below]
    intro f hf
    have := hlast f hf
    omega

/-- What is well formed and what stands on the lines behind it are read apart. The whole is well
    formed exactly if the second part is, and has the nodes of both then, with the line feed between
    them, so the numbers of forms add up, and each line has the form on it that it has in its own
    part. In parentheses, with the closing one on a line of its own, the nodes are those of one
    list. -/
theorem lines_stand_apart (ha : Document.parse a = .ok da) :
    (∀ b, isBalanced (a ++ '\n' :: b) = isBalanced b) ∧
    (∀ b, countForms (a ++ '\n' :: b) =
      (countForms b).bind fun k => (countForms a).map (· + k)) ∧
    (∀ b db, Document.parse b = .ok db →
      Document.parse (a ++ '\n' :: b) = .ok ⟨da.nodes ++ .leaf (Token.lineFeed a.length) ::
        db.nodes.map (Node.shift (a.length + 1)), a ++ '\n' :: b⟩ ∧
      ∀ t, locate (a ++ '\n' :: b) t = if t ≤ 1 + a.count '\n' then locate a t
        else (locate b (t - (1 + a.count '\n'))).map
          (LocatedForm.below (da.nodes.length + 1) (a.length + 1) (1 + a.count '\n'))) ∧
    Document.parse ('(' :: (a ++ ['\n', ')'])) = .ok ⟨[.delimited .list ⟨.opener, ['('], 0⟩
      (da.nodes.map (Node.shift 1) ++ [.leaf (Token.lineFeed (a.length + 1))])
      ⟨.closer, [')'], a.length + 2⟩], '(' :: (a ++ ['\n', ')'])⟩ := by
  refine ⟨Document.isBalanced_line ha, Document.countForms_line ha, fun b db hb => ?_,
    Document.parse_enclosed ha⟩
  exact ⟨Document.parse_line ha hb, locate_line ha hb⟩

/-- Behind a comment, which a list over two lines follows. -/
theorem lines_stand_apart_behind_comment :
    let a := "'x ;c".toList
    let b := "(y\n)".toList
    Document.parse a = .ok ⟨[.marked ⟨.mark, ['\''], 0⟩ [.leaf ⟨.atom, ['x'], 1⟩],
      .leaf ⟨.whitespace, [' '], 2⟩, .leaf ⟨.comment, ";c".toList, 3⟩], a⟩ ∧
    countForms (a ++ '\n' :: b) = some 2 ∧
    (locate (a ++ '\n' :: b) 3).map (fun f => (f.index, f.text, f.startLine, f.endLine)) =
      some (4, b, 2, 3) := by
  intro a b
  have ha : Document.parse a = .ok ⟨[.marked ⟨.mark, ['\''], 0⟩ [.leaf ⟨.atom, ['x'], 1⟩],
      .leaf ⟨.whitespace, [' '], 2⟩, .leaf ⟨.comment, ";c".toList, 3⟩], a⟩ := by cbv
  have hb : Document.parse b = .ok ⟨[.delimited .list ⟨.opener, ['('], 0⟩
      [.leaf ⟨.atom, ['y'], 1⟩, .leaf ⟨.newline, ['\n'], 2⟩] ⟨.closer, [')'], 3⟩], b⟩ := by cbv
  obtain ⟨-, hcount, hline, -⟩ := lines_stand_apart ha
  refine ⟨ha, ?_, ?_⟩
  · rw [hcount, countForms, countForms, Document.formsOf?, Document.formsOf?, ha, hb]
    rfl
  · rw [(hline b _ hb).2, if_neg (by decide), locate, hb]
    rfl

end

end FormEdit
