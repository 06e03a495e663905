import FormEdit.Edit.Locate
import FormEdit.Proofs.Document.Proper
import FormEdit.Proofs.Token.Seam

set_option autoImplicit false

/-! # Where forms are

A form is where its text stands: at an offset, with all its characters (`Document.spans`). Nodes may
be moved as a whole, which changes nothing but the offsets of their tokens (`Node.shift`). -/

namespace FormEdit

namespace Node

/-! ## Moved nodes -/

mutual

/-- The node with all its tokens moved by a distance. -/
def shift (k : Int) : Node → Node
  | leaf t => leaf (t.shift k)
  | delimited b o cs c => delimited b (o.shift k) (shiftAll k cs) (c.shift k)
  | marked m cs => marked (m.shift k) (shiftAll k cs)

/-- The nodes with all their tokens moved by a distance. -/
def shiftAll (k : Int) : List Node → List Node
  | [] => []
  | n :: ns => n.shift k :: shiftAll k ns

end

theorem shiftAll_eq (k : Int) (ns : List Node) : shiftAll k ns = ns.map (shift k) := by
  induction ns with
  | nil => rfl
  | cons n ns ih => rw [shiftAll, ih, List.map_cons]

@[simp] theorem isTrivia_shift (k : Int) (n : Node) : (n.shift k).isTrivia = n.isTrivia := by
  cases n <;> rfl

theorem semantic_map_shift (k : Int) (ns : List Node) :
    semantic (ns.map (shift k)) = (semantic ns).map (shift k) := by
  induction ns with
  | nil => rfl
  | cons n ns ih =>
    rw [List.map_cons, semantic_cons, semantic_cons, isTrivia_shift, ih]
    split <;> rfl

mutual

theorem tokens_shift (k : Int) (n : Node) : (n.shift k).tokens = n.tokens.map (Token.shift k) := by
  match n with
  | .leaf t => rfl
  | .delimited b o cs c =>
    rw [shift, tokens_delimited, tokens_delimited, tokensOf_shiftAll]
    simp
  | .marked m cs =>
    rw [shift, tokens_marked, tokens_marked, tokensOf_shiftAll]
    simp

theorem tokensOf_shiftAll (k : Int) (ns : List Node) :
    tokensOf (shiftAll k ns) = (tokensOf ns).map (Token.shift k) := by
  match ns with
  | [] => rfl
  | n :: ns =>
    rw [shiftAll, tokensOf_cons, tokensOf_cons, tokens_shift, tokensOf_shiftAll, List.map_append]

end

theorem tokensOf_map_shift (k : Int) (ns : List Node) :
    tokensOf (ns.map (shift k)) = (tokensOf ns).map (Token.shift k) := by
  rw [← shiftAll_eq, tokensOf_shiftAll]

@[simp] theorem text_shift (k : Int) (n : Node) : (n.shift k).text = n.text := by
  rw [text, tokens_shift, Token.textOf_map_shift, text]

@[simp] theorem textOf_map_shift (k : Int) (ns : List Node) :
    textOf (ns.map (shift k)) = textOf ns := by
  rw [textOf, tokensOf_map_shift, Token.textOf_map_shift, textOf]

theorem Proper.shift {n : Node} (h : n.Proper) (k : Int) : (n.shift k).Proper := by
  induction h with
  | leaf alone => exact .leaf alone
  | delimited opens opening closes closing inside ih =>
    rw [Node.shift, shiftAll_eq]
    refine .delimited opens opening closes closing fun n hn => ?_
    obtain ⟨m, hm, rfl⟩ := List.mem_map.1 hn
    exact ih m hm
  | marked marks count last inside ih =>
    rw [Node.shift, shiftAll_eq]
    refine .marked marks ?_ ?_ fun n hn => ?_
    · rw [semantic_map_shift, List.length_map, count]
      rfl
    · intro n hn
      rw [List.getLast?_map] at hn
      obtain ⟨m, hm, rfl⟩ := Option.map_eq_some_iff.1 hn
      rw [isTrivia_shift]
      exact last m hm
    · obtain ⟨m, hm, rfl⟩ := List.mem_map.1 hn
      exact ih m hm

theorem proper_map_shift {ns : List Node} (h : ∀ n ∈ ns, n.Proper) (k : Int) :
    ∀ n ∈ ns.map (shift k), n.Proper := by
  intro n hn
  obtain ⟨m, hm, rfl⟩ := List.mem_map.1 hn
  exact (h m hm).shift k

/-! ## Spans -/

/-- Where the forms among nodes start and what their texts are, when the nodes start at the offset
    `o`. -/
def spans (o : Int) : List Node → List (Int × List Char)
  | [] => []
  | n :: ns =>
    if n.isTrivia then spans (o + n.text.length) ns
    else (o, n.text) :: spans (o + n.text.length) ns

theorem spans_append (o : Int) (ns ms : List Node) :
    spans o (ns ++ ms) = spans o ns ++ spans (o + (textOf ns).length) ms := by
  induction ns generalizing o with
  | nil => simp [spans]
  | cons n ns ih =>
    have hoff : o + ((textOf (n :: ns)).length : Int) = o + n.text.length + (textOf ns).length := by
      rw [textOf_cons, List.length_append]
      omega
    rw [List.cons_append, spans, spans, ih, hoff]
    split <;> rfl

theorem spans_map_shift (o k : Int) (ns : List Node) : spans o (ns.map (shift k)) = spans o ns := by
  induction ns generalizing o with
  | nil => rfl
  | cons n ns ih => rw [List.map_cons, spans, spans, isTrivia_shift, text_shift, ih]

/-- Trivia has no forms. -/
theorem spans_trivia {ns : List Node} (h : ∀ n ∈ ns, n.isTrivia = true) (o : Int) :
    spans o ns = [] := by
  induction ns generalizing o with
  | nil => rfl
  | cons n ns ih => rw [spans, if_pos (h n (by simp)), ih fun m hm => h m (by simp [hm])]

theorem map_snd_spans (o : Int) (ns : List Node) :
    (spans o ns).map Prod.snd = (semantic ns).map text := by
  induction ns generalizing o with
  | nil => rfl
  | cons n ns ih =>
    rw [spans, semantic_cons]
    split
    · exact ih _
    · rw [List.map_cons, List.map_cons, ih]

theorem length_spans (o : Int) (ns : List Node) : (spans o ns).length = (semantic ns).length := by
  have := congrArg List.length (map_snd_spans o ns)
  rwa [List.length_map, List.length_map] at this

/-- Spans moved by a distance. -/
def moveSpans (k : Int) (ss : List (Int × List Char)) : List (Int × List Char) :=
  ss.map fun s => (s.1 + k, s.2)

theorem map_snd_moveSpans (k : Int) (ss : List (Int × List Char)) :
    (moveSpans k ss).map Prod.snd = ss.map Prod.snd := by
  rw [moveSpans, List.map_map]
  rfl

/-- The spans of nodes that start at another offset are moved. -/
theorem spans_add (o k : Int) (ns : List Node) : spans (o + k) ns = moveSpans k (spans o ns) := by
  induction ns generalizing o with
  | nil => rfl
  | cons n ns ih =>
    have hoff : o + k + (n.text.length : Int) = o + n.text.length + k := by omega
    rw [spans, spans, hoff, ih]
    split <;> rfl

end Node

theorem map_placedForms (k : Nat) (here : Position) (ns : List Node) :
    (placedForms k here ns).map (fun f => (f.start.offset, f.text)) =
      Node.spans here.offset ns := by
  induction ns generalizing k here with
  | nil => rfl
  | cons n ns ih =>
    rw [placedForms, Node.spans, ← Position.advance_offset]
    split
    · exact ih _ _
    · rw [List.map_cons, ih]
      rfl

namespace Document

/-- Where the top-level forms of a document start, and what their texts are. -/
def spans (d : Document) : List (Int × List Char) :=
  d.placedForms.map fun f => (f.start.offset, f.text)

theorem spans_eq (d : Document) : d.spans = Node.spans 0 d.nodes := map_placedForms 0 .start d.nodes

theorem map_snd_spans (d : Document) : d.spans.map Prod.snd = d.forms.map Node.text := by
  rw [spans_eq, Node.map_snd_spans, forms]

end Document

end FormEdit
