import FormEdit.Document.Trail
import FormEdit.Proofs.Document.Proper

set_option autoImplicit false

/-! # Nodes at places of a document

What holds of a whole document and passes from a form to its children holds of the node at every
place. Two such things are used: being proper, and having its tokens, one behind the other, among
the tokens of the document. -/

namespace FormEdit

/-- The children of a proper node are proper. -/
theorem Node.Proper.children {n : Node} (h : n.Proper) : ∀ m ∈ n.children, m.Proper := by
  cases h with
  | leaf _ => simp [Node.children]
  | delimited _ _ _ _ inside => exact inside
  | marked _ _ _ inside => exact inside

/-- The tokens of the children of a node are one run of its tokens. -/
theorem Node.tokens_eq_children (n : Node) :
    ∃ us vs, n.tokens = us ++ tokensOf n.children ++ vs := by
  match n with
  | .leaf t => exact ⟨[t], [], rfl⟩
  | .delimited b o cs c => exact ⟨[o], [c], by simp [Node.children]⟩
  | .marked m cs => exact ⟨[m], [], by simp [Node.children]⟩

/-- Nodes around one of them. -/
theorem Node.eq_take_cons_drop {ns : List Node} {i : Nat} {n : Node} (h : ns[i]? = some n) :
    ns = ns.take i ++ n :: ns.drop (i + 1) := by
  obtain ⟨hi, rfl⟩ := List.getElem?_eq_some_iff.1 h
  rw [List.getElem_cons_drop, List.take_append_drop]

/-- The tokens of one of a list of nodes are one run of the tokens of all. -/
theorem Node.tokensOf_eq_of_getElem? {ns : List Node} {i : Nat} {n : Node} (h : ns[i]? = some n) :
    tokensOf ns = tokensOf (ns.take i) ++ n.tokens ++ tokensOf (ns.drop (i + 1)) := by
  calc tokensOf ns = tokensOf (ns.take i ++ n :: ns.drop (i + 1)) := by
        rw [← eq_take_cons_drop h]
    _ = _ := by rw [tokensOf_append, tokensOf_cons, List.append_assoc]

namespace Document

/-- The children at a trail, of a form or of no form at all, are proper in a proper document. -/
theorem proper_childrenAt {d : Document} (h : ∀ n ∈ d.nodes, n.Proper) (up : Trail) :
    ∀ n ∈ d.childrenAt up, n.Proper := by
  induction up with
  | nil => exact h
  | cons i up ih =>
    rw [childrenAt]
    split
    · next m hm => exact (ih m (List.mem_of_getElem? hm)).children
    · simp

theorem proper_of_node? {d : Document} (h : ∀ n ∈ d.nodes, n.Proper) {i : Nat} {up : Trail}
    {n : Node} (hn : d.node? i up = some n) : n.Proper :=
  proper_childrenAt h up n (List.mem_of_getElem? hn)

theorem childrenAt_ne_nil {d : Document} {i : Nat} {up : Trail} {n : Node}
    (h : d.node? i up = some n) : d.childrenAt up ≠ [] := by
  intro hnil
  simp [node?, hnil] at h

/-- As many nodes stand before a node as its index says. -/
theorem length_take_childrenAt {d : Document} {i : Nat} {up : Trail} {n : Node}
    (h : d.node? i up = some n) : ((d.childrenAt up).take i).length = i := by
  have hi := (List.getElem?_eq_some_iff.1 h).1
  rw [List.length_take]
  omega

theorem tokensOf_eq_childrenAt (d : Document) (up : Trail) :
    ∃ us vs, Node.tokensOf d.nodes = us ++ Node.tokensOf (d.childrenAt up) ++ vs := by
  induction up with
  | nil => exact ⟨[], [], by simp [childrenAt]⟩
  | cons i up ih =>
    obtain ⟨us, vs, h⟩ := ih
    rw [childrenAt]
    split
    · next n hn =>
      obtain ⟨us', vs', hn'⟩ := n.tokens_eq_children
      refine ⟨us ++ (Node.tokensOf ((d.childrenAt up).take i) ++ us'),
        vs' ++ Node.tokensOf ((d.childrenAt up).drop (i + 1)) ++ vs, ?_⟩
      rw [h, Node.tokensOf_eq_of_getElem? hn, hn']
      simp only [List.append_assoc]
    · exact ⟨Node.tokensOf d.nodes, [], by simp⟩

/-- The tokens of the node at a place are one run of the tokens of the document. -/
theorem tokensOf_eq_of_node? {d : Document} {i : Nat} {up : Trail} {n : Node}
    (h : d.node? i up = some n) :
    ∃ us vs, Node.tokensOf d.nodes = us ++ n.tokens ++ vs := by
  obtain ⟨us, vs, htok⟩ := d.tokensOf_eq_childrenAt up
  refine ⟨us ++ Node.tokensOf ((d.childrenAt up).take i),
    Node.tokensOf ((d.childrenAt up).drop (i + 1)) ++ vs, ?_⟩
  rw [htok, Node.tokensOf_eq_of_getElem? h]
  simp only [List.append_assoc]

end Document

end FormEdit
