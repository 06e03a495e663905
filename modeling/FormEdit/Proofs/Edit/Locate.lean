import FormEdit.Edit.Locate

set_option autoImplicit false

/-! # The first form at a line

The lines of a form are counted by the line feeds before it and inside it. The search goes through
the top-level forms in order and stops early, which loses nothing since no form starts on a line
above the one before it. So what is located is the first form whose lines include the line
(`Document.locate_eq_some_iff`). -/

namespace FormEdit

/-- Whether the lines of a located form include a line. -/
def LocatedForm.includes (line : Int) (f : LocatedForm) : Bool :=
  f.startLine ≤ line && line ≤ f.endLine

theorem formAtLine_eq_find? {fs : List LocatedForm}
    (h : fs.Pairwise fun f g => f.startLine ≤ g.startLine) (line : Int) :
    formAtLine line fs = fs.find? (·.includes line) := by
  induction fs with
  | nil => rfl
  | cons f fs ih =>
    obtain ⟨hf, hfs⟩ := List.pairwise_cons.1 h
    rw [formAtLine, List.find?_cons]
    by_cases hlt : line < f.startLine
    · rw [if_pos hlt]
      have hno : f.includes line = false := by
        simp only [LocatedForm.includes, Bool.and_eq_false_iff, decide_eq_false_iff_not]
        omega
      rw [hno]
      refine (List.find?_eq_none.2 fun g hg => ?_).symm
      have := hf g hg
      simp only [LocatedForm.includes, Bool.and_eq_true, decide_eq_true_eq]
      omega
    · rw [if_neg hlt, ih hfs]
      by_cases hle : line ≤ f.endLine
      · have hyes : f.includes line = true := by
          simp only [LocatedForm.includes, Bool.and_eq_true, decide_eq_true_eq]
          omega
        rw [if_pos hle, hyes]
      · have hno : f.includes line = false := by
          simp only [LocatedForm.includes, Bool.and_eq_false_iff, decide_eq_false_iff_not]
          omega
        rw [if_neg hle, hno]

/-! ## Forms with their places -/

theorem mem_placedForms {k : Nat} {here : Position} {ns : List Node} {f : LocatedForm} :
    f ∈ placedForms k here ns ↔ ∃ j n, ns[j]? = some n ∧ n.isTrivia = false ∧
      f = ⟨k + j, n, here.advance (Node.textOf (ns.take j)),
        (here.advance (Node.textOf (ns.take (j + 1)))).line⟩ := by
  induction ns generalizing k here with
  | nil => simp [placedForms]
  | cons n ns ih =>
    have hrest : f ∈ placedForms (k + 1) (here.advance n.text) ns ↔
        ∃ j m, (n :: ns)[j + 1]? = some m ∧ m.isTrivia = false ∧
          f = ⟨k + (j + 1), m, here.advance (Node.textOf ((n :: ns).take (j + 1))),
            (here.advance (Node.textOf ((n :: ns).take (j + 1 + 1)))).line⟩ := by
      rw [ih]
      simp [Nat.add_assoc, Nat.add_comm 1]
    have hsplit : ∀ {P : Nat → Prop}, (∃ j, P j) ↔ P 0 ∨ ∃ j, P (j + 1) := by
      intro P
      constructor
      · rintro ⟨j, hj⟩
        cases j with
        | zero => exact .inl hj
        | succ j => exact .inr ⟨j, hj⟩
      · rintro (h | ⟨j, hj⟩)
        · exact ⟨0, h⟩
        · exact ⟨j + 1, hj⟩
    rw [placedForms, hsplit, ← hrest]
    cases hn : n.isTrivia <;> simp [hn]

theorem pairwise_placedForms (k : Nat) (here : Position) (ns : List Node) :
    (placedForms k here ns).Pairwise fun f g => f.index < g.index ∧ f.startLine ≤ g.startLine := by
  induction ns generalizing k here with
  | nil => exact .nil
  | cons n ns ih =>
    rw [placedForms]
    split
    · exact ih _ _
    · refine List.pairwise_cons.2 ⟨fun g hg => ?_, ih _ _⟩
      obtain ⟨j, m, -, -, rfl⟩ := mem_placedForms.1 hg
      simp only [LocatedForm.startLine, Position.advance_line]
      omega

namespace Document

/-- The line on which the top-level node with index `i` starts: one more than the line feeds before
    it. -/
def startLine (d : Document) (i : Nat) : Int := 1 + (Node.textOf (d.nodes.take i)).count '\n'

/-- Whether the top-level node `n` with index `i` is a form whose lines include a line. -/
def Spans (d : Document) (line : Int) (i : Nat) (n : Node) : Prop :=
  d.nodes[i]? = some n ∧ n.isTrivia = false ∧ d.startLine i ≤ line ∧
    line ≤ d.startLine i + n.text.count '\n'

/-- Whether the top-level node `n` with index `i` is the first form whose lines include a line. -/
def IsFormAt (d : Document) (line : Int) (i : Nat) (n : Node) : Prop :=
  d.Spans line i n ∧ ∀ j m, d.Spans line j m → i ≤ j

/-- The top-level node `n` with index `i`, and where it is in a document. -/
def placed (d : Document) (i : Nat) (n : Node) : LocatedForm :=
  ⟨i, n, Position.start.advance (Node.textOf (d.nodes.take i)),
    d.startLine i + n.text.count '\n'⟩

theorem mem_placedForms {d : Document} {f : LocatedForm} :
    f ∈ d.placedForms ↔ ∃ i n, d.nodes[i]? = some n ∧ n.isTrivia = false ∧ f = d.placed i n := by
  rw [placedForms, FormEdit.mem_placedForms]
  refine exists_congr fun i => exists_congr fun n => and_congr_right fun hi => ?_
  have hend : (Position.start.advance (Node.textOf (d.nodes.take (i + 1)))).line =
      d.startLine i + n.text.count '\n' := by
    rw [List.take_add_one, hi, Node.textOf_append, Position.advance_append,
      Position.advance_line, Position.advance_line, startLine]
    simp [Position.start]
  rw [placed, Nat.zero_add, hend]

theorem includes_placed {d : Document} {line : Int} {i : Nat} {n : Node} (hi : d.nodes[i]? = some n)
    (hn : n.isTrivia = false) : (d.placed i n).includes line = true ↔ d.Spans line i n := by
  have hstart : (d.placed i n).startLine = d.startLine i := by
    simp [LocatedForm.startLine, placed, Position.advance_line, startLine, Position.start]
  rw [LocatedForm.includes, Bool.and_eq_true, decide_eq_true_eq, decide_eq_true_eq, hstart]
  simp [placed, Spans, hi, hn]

theorem isFormAt_of_locate {d : Document} {line : Int} {f : LocatedForm}
    (h : d.locate line = some f) : ∃ i n, d.IsFormAt line i n ∧ f = d.placed i n := by
  have hsorted := pairwise_placedForms 0 Position.start d.nodes
  rw [locate, placedForms, formAtLine_eq_find? (hsorted.imp fun h => h.2)] at h
  obtain ⟨hf, as, bs, heq, has⟩ := List.find?_eq_some_iff_append.1 h
  obtain ⟨i, n, hi, hn, rfl⟩ := mem_placedForms.1 (List.mem_of_find?_eq_some h)
  refine ⟨i, n, ⟨(includes_placed hi hn).1 hf, fun j m hm => ?_⟩, rfl⟩
  have hg := (includes_placed hm.1 hm.2.1).2 hm
  have hmem : d.placed j m ∈ as ++ d.placed i n :: bs := by
    rw [← heq]
    exact mem_placedForms.2 ⟨j, m, hm.1, hm.2.1, rfl⟩
  -- Forms before the one found do not include the line, those behind it have a larger index.
  rcases List.mem_append.1 hmem with hmem | hmem
  · have := has _ hmem
    rw [hg] at this
    cases this
  rcases List.mem_cons.1 hmem with he | hmem
  · exact Nat.le_of_eq (congrArg LocatedForm.index he).symm
  · rw [heq] at hsorted
    have := (List.pairwise_cons.1 (List.pairwise_append.1 hsorted).2.1).1 _ hmem
    exact Nat.le_of_lt this.1

/-- The search finds the first form whose lines include the line. -/
theorem locate_eq_some_iff {d : Document} {line : Int} {f : LocatedForm} :
    d.locate line = some f ↔ ∃ i n, d.IsFormAt line i n ∧ f = d.placed i n := by
  refine ⟨isFormAt_of_locate, ?_⟩
  rintro ⟨i, n, ⟨hspan, hfirst⟩, rfl⟩
  have hsorted := pairwise_placedForms 0 Position.start d.nodes
  cases hloc : d.locate line with
  | none =>
    rw [locate, placedForms, formAtLine_eq_find? (hsorted.imp fun h => h.2)] at hloc
    have hmem : d.placed i n ∈ d.placedForms :=
      mem_placedForms.2 ⟨i, n, hspan.1, hspan.2.1, rfl⟩
    exact absurd ((includes_placed hspan.1 hspan.2.1).2 hspan) (List.find?_eq_none.1 hloc _ hmem)
  | some g =>
    obtain ⟨j, m, ⟨hm, hj⟩, rfl⟩ := isFormAt_of_locate hloc
    have hij : i = j := Nat.le_antisymm (hfirst j m hm) (hj i n hspan)
    subst hij
    have hnm : n = m := Option.some.inj (hspan.1.symm.trans hm.1)
    rw [hnm]

end Document

/-- A located form is the first at its line in a document that was read. -/
theorem exists_placed_of_locate {source : List Char} {line : Int} {f : LocatedForm}
    (h : locate source line = some f) :
    ∃ d i n, 1 ≤ line ∧ Document.parse source = .ok d ∧ d.IsFormAt line i n ∧ f = d.placed i n := by
  rw [locate] at h
  split at h
  · cases h
  · next hline =>
    split at h
    · cases h
    · next d hd =>
      obtain ⟨i, n, hat, hf⟩ := Document.locate_eq_some_iff.1 h
      exact ⟨d, i, n, by omega, hd, hat, hf⟩

end FormEdit
