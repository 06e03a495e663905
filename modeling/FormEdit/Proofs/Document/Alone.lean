import FormEdit.Proofs.Document.Place
import FormEdit.Proofs.Document.Span

set_option autoImplicit false

/-! # Nodes by themselves

A node starts behind the text of all tokens before it (`Document.exists_startOf?`). Its tokens are
one run of those of the document, and a run that is cut out of a scan is a scan. So the text of a
node, read by itself, gives that node and nothing else (`Document.parse_text_of_node?`). -/

namespace FormEdit

/-- The tokens of a node before its children make up the text that opens it. -/
theorem Node.exists_openText (n : Node) :
    ∃ us vs, n.tokens = us ++ tokensOf n.children ++ vs ∧ Token.textOf us = n.openText := by
  cases n with
  | leaf t => exact ⟨[t], [], rfl, by simp [Node.openText]⟩
  | delimited b o cs c => exact ⟨[o], [c], by simp [Node.children], by simp [Node.openText]⟩
  | marked m cs => exact ⟨[m], [], by simp [Node.children], by simp [Node.openText]⟩

namespace Document

variable {d : Document} {i : Nat} {up : Trail} {n : Node}

/-- Where a form on the way to a node has its children, they are one run of the tokens of the
    document, and the run starts behind the text of the tokens before it. -/
theorem exists_inside? (h : d.node? i up = some n) :
    ∃ us vs, Node.tokensOf d.nodes = us ++ Node.tokensOf (d.childrenAt up) ++ vs ∧
      d.inside? up = some (d.childrenAt up, Position.start.advance (Token.textOf us)) := by
  induction up generalizing i n with
  | nil => exact ⟨[], [], by simp [childrenAt], rfl⟩
  | cons j up ih =>
    cases hm : (d.childrenAt up)[j]? with
    | none => simp [node?, childrenAt, hm] at h
    | some m =>
      obtain ⟨us, vs, htok, hinside⟩ := ih hm
      obtain ⟨us', vs', hm', hopen⟩ := m.exists_openText
      have hcs : d.childrenAt (j :: up) = m.children := by rw [childrenAt, hm]
      refine ⟨us ++ (Node.tokensOf ((d.childrenAt up).take j) ++ us'),
        vs' ++ Node.tokensOf ((d.childrenAt up).drop (j + 1)) ++ vs, ?_, ?_⟩
      · rw [htok, Node.tokensOf_eq_of_getElem? hm, hm', hcs]
        simp only [List.append_assoc]
      · rw [inside?, hinside]
        simp only [hm, Option.map_some, hcs, Token.textOf_append, Position.advance_append, hopen]
        rfl

/-- The tokens of a node are one run of those of the document. The node starts behind the text of
    the tokens before the run. -/
theorem exists_startOf? (h : d.node? i up = some n) :
    ∃ us vs, Node.tokensOf d.nodes = us ++ n.tokens ++ vs ∧
      d.startOf? i up = some (Position.start.advance (Token.textOf us)) := by
  obtain ⟨us, vs, htok, hinside⟩ := exists_inside? h
  refine ⟨us ++ Node.tokensOf ((d.childrenAt up).take i),
    Node.tokensOf ((d.childrenAt up).drop (i + 1)) ++ vs, ?_, ?_⟩
  · rw [htok, Node.tokensOf_eq_of_getElem? h]
    simp only [List.append_assoc]
  · have hi : (d.childrenAt up)[i]? = some n := h
    rw [startOf?, hinside]
    simp only [hi, Option.map_some, Token.textOf_append, Position.advance_append]
    rfl

/-- The text of a node of a document, read by itself, is a document with this one node, moved to the
    front. -/
theorem parse_text_of_node? {source : List Char} (hd : parse source = .ok d)
    (h : d.node? i up = some n) :
    ∃ p, d.startOf? i up = some p ∧ parse n.text = .ok ⟨[n.shift (-p.offset)], n.text⟩ := by
  obtain ⟨us, vs, htok, hstart⟩ := exists_startOf? h
  obtain ⟨-, -, hscan, hproper⟩ := parse_eq_ok_iff.1 hd
  refine ⟨_, hstart, parse_eq_ok_iff.2 ⟨rfl, ?_, ?_, ?_⟩⟩
  · show Node.textOf [n.shift _] = n.text
    simp
  · rw [htok] at hscan
    have hoff : (Position.start.advance (Token.textOf us)).offset =
        0 + ((Token.textOf us).length : Int) := Position.advance_offset _ _
    rw [hoff, Node.tokensOf_cons, Node.tokensOf_nil, List.append_nil, Node.tokens_shift]
    exact hscan.of_infix.moved
  · intro m hm
    rw [List.mem_singleton.1 hm]
    exact (proper_of_node? hproper h).shift _

end Document

end FormEdit
