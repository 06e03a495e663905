import FormEdit.Document.Cursor
import FormEdit.Proofs.Document.Place
import Mathlib.Data.List.Induction

set_option autoImplicit false

/-! # Moving a cursor

A cursor stands on one form of a row, the forms inside one form or at the top with the trivia
between them left out. Its moves go along the row, to the first form of the row inside, and to the
form around the row, so each undoes the other. No move and no edit leads to trivia or to where no
node is (`Cursor.Reachable.navigable`). -/

namespace FormEdit

namespace Node

/-! ## The forms among nodes -/

/-- The indexes of the forms among nodes, of which the first has index `k`, in order. -/
def formIndexes (k : Nat) : List Node → List Nat
  | [] => []
  | n :: ns => if n.isTrivia then formIndexes (k + 1) ns else k :: formIndexes (k + 1) ns

theorem formIndexes_append (k : Nat) (ns ms : List Node) :
    formIndexes k (ns ++ ms) = formIndexes k ns ++ formIndexes (k + ns.length) ms := by
  induction ns generalizing k with
  | nil => rfl
  | cons n ns ih =>
    rw [List.cons_append, formIndexes, formIndexes, ih, List.length_cons, Nat.add_comm ns.length 1,
      Nat.add_assoc]
    split <;> rfl

theorem head?_formIndexes (k : Nat) (ns : List Node) :
    (formIndexes k ns).head? = (ns.findIdx? fun n => !n.isTrivia).map (· + k) := by
  induction ns generalizing k with
  | nil => rfl
  | cons n ns ih =>
    rw [formIndexes, List.findIdx?_cons]
    cases hn : n.isTrivia with
    | false => simp
    | true =>
      simp only [if_true, ih, Bool.not_true, Bool.false_eq_true, if_false, Option.map_map]
      congr 1
      funext j
      simp only [Function.comp_apply]
      omega

theorem getLast?_formIndexes (k : Nat) (ns : List Node) :
    (formIndexes k ns).getLast? =
      (ns.reverse.findIdx? fun n => !n.isTrivia).map fun j => k + (ns.length - 1 - j) := by
  induction ns using List.reverseRecOn with
  | nil => rfl
  | append_singleton ns n ih =>
    rw [formIndexes_append, List.reverse_append, List.reverse_singleton, List.singleton_append,
      List.findIdx?_cons, formIndexes, formIndexes]
    cases hn : n.isTrivia with
    | false => simp
    | true =>
      simp only [if_true, List.append_nil, ih, Bool.not_true, Bool.false_eq_true, if_false,
        Option.map_map]
      congr 1
      funext j
      simp only [Function.comp_apply, List.length_append, List.length_singleton]
      omega

/-- What stands before and behind one of the indexes. -/
theorem formIndexes_split {k i : Nat} {ns : List Node} {before behind : List Nat}
    (h : formIndexes k ns = before ++ i :: behind) :
    k ≤ i ∧ before = formIndexes k (ns.take (i - k)) ∧
      behind = formIndexes (i + 1) (ns.drop (i - k + 1)) := by
  induction ns generalizing k before with
  | nil => simp [formIndexes] at h
  | cons n ns ih =>
    rw [formIndexes] at h
    split at h
    · next hn =>
      obtain ⟨hk, hbefore, hbehind⟩ := ih h
      have hi : i - k = i - (k + 1) + 1 := by omega
      refine ⟨by omega, ?_, ?_⟩
      · rw [hi, List.take_succ_cons, formIndexes, if_pos hn, hbefore]
      · rw [hi, List.drop_succ_cons, hbehind]
    · next hn =>
      match before with
      | [] =>
        simp only [List.nil_append, List.cons.injEq] at h
        obtain ⟨rfl, rfl⟩ := h
        simp [formIndexes]
      | j :: before =>
        simp only [List.cons_append, List.cons.injEq] at h
        obtain ⟨rfl, h⟩ := h
        obtain ⟨hk, hbefore, hbehind⟩ := ih h
        have hi : i - k = i - (k + 1) + 1 := by omega
        refine ⟨by omega, ?_, ?_⟩
        · rw [hi, List.take_succ_cons, formIndexes, if_neg hn, hbefore]
        · rw [hi, List.drop_succ_cons, hbehind]

/-- A form has its index among those of the forms. -/
theorem exists_formIndexes_split {i : Nat} {ns : List Node} {n : Node} (h : ns[i]? = some n)
    (hn : n.isTrivia = false) : ∃ before behind, formIndexes 0 ns = before ++ i :: behind := by
  have hi := (List.getElem?_eq_some_iff.1 h).1
  refine ⟨formIndexes 0 (ns.take i), formIndexes (i + 1) (ns.drop (i + 1)), ?_⟩
  have hlen : (ns.take i).length = i := by
    rw [List.length_take]
    omega
  conv_lhs => rw [eq_take_cons_drop h]
  rw [formIndexes_append, formIndexes, if_neg (by simp [hn]), hlen, Nat.zero_add]

/-- The nodes with these indexes are the forms. -/
theorem map_formIndexes (k : Nat) (ns : List Node) :
    (formIndexes k ns).map (fun j => ns[j - k]?) = (semantic ns).map some := by
  induction ns generalizing k with
  | nil => rfl
  | cons n ns ih =>
    have hle : ∀ j ∈ formIndexes (k + 1) ns, k + 1 ≤ j := by
      intro j hj
      obtain ⟨before, behind, hsplit⟩ := List.append_of_mem hj
      exact (formIndexes_split hsplit).1
    have htail : (formIndexes (k + 1) ns).map (fun j => (n :: ns)[j - k]?) =
        (semantic ns).map some := by
      rw [← ih (k + 1)]
      refine List.map_congr_left fun j hj => ?_
      have hj : j - k = j - (k + 1) + 1 := by
        have := hle j hj
        omega
      rw [hj, List.getElem?_cons_succ]
    rw [formIndexes, semantic_cons]
    split
    · exact htail
    · rw [List.map_cons, htail, Nat.sub_self]
      rfl

/-- Each index is there once, in order. -/
theorem pairwise_formIndexes (k : Nat) (ns : List Node) :
    (formIndexes k ns).Pairwise (· < ·) := by
  induction ns generalizing k with
  | nil => exact .nil
  | cons n ns ih =>
    rw [formIndexes]
    split
    · exact ih _
    · refine List.pairwise_cons.2 ⟨fun j hj => ?_, ih _⟩
      obtain ⟨before, behind, hsplit⟩ := List.append_of_mem hj
      exact (formIndexes_split hsplit).1

/-- There is a form at each of the indexes. -/
theorem exists_of_mem_formIndexes {j : Nat} {ns : List Node} (h : j ∈ formIndexes 0 ns) :
    ∃ n, ns[j]? = some n ∧ n.isTrivia = false := by
  have hmem : ns[j]? ∈ (semantic ns).map some := by
    rw [← map_formIndexes 0]
    exact List.mem_map_of_mem h
  obtain ⟨n, hn, hj⟩ := List.mem_map.1 hmem
  exact ⟨n, hj.symm, by simpa using (List.mem_filter.1 hn).2⟩

end Node

namespace Document

variable {d : Document} {i : Nat} {up : Trail} {n : Node}

/-! ## The way to a node -/

/-- The form around a node is one that may have others inside it. -/
theorem exists_around {j : Nat} (h : d.node? i (j :: up) = some n) :
    ∃ m, d.node? j up = some m ∧ m.isComposite = true := by
  cases hm : (d.childrenAt up)[j]? with
  | none => simp [node?, childrenAt, hm] at h
  | some m =>
    refine ⟨m, hm, ?_⟩
    cases m with
    | leaf t => simp [node?, childrenAt, hm, Node.children] at h
    | delimited b o cs c => rfl
    | marked t cs => rfl

/-- The way to a node leads through forms that may have others inside them. -/
theorem exists_on_trail (h : d.node? i up = some n) {j : Nat} {rest : Trail}
    (hrest : (j :: rest) <:+ up) : ∃ m, d.node? j rest = some m ∧ m.isComposite = true := by
  induction up generalizing i n with
  | nil => simp at hrest
  | cons k up ih =>
    obtain ⟨m, hm, hcomp⟩ := exists_around h
    rcases List.suffix_cons_iff.1 hrest with heq | hrest
    · cases heq
      exact ⟨m, hm, hcomp⟩
    · exact ih hm hrest

/-- Exchanged children are where they were put. -/
theorem childrenAt_exchange (h : d.childrenAt up ≠ []) (cs : List Node) :
    childrenAt { d with nodes := d.exchange up cs } up = cs := by
  induction up generalizing cs with
  | nil => rfl
  | cons j up ih =>
    cases hm : (d.childrenAt up)[j]? with
    | none => simp [childrenAt, hm] at h
    | some m =>
      have hnode : d.node? j up = some m := hm
      have hne := childrenAt_ne_nil hnode
      have hj := (List.getElem?_eq_some_iff.1 hm).1
      rw [childrenAt, exchange, hnode]
      simp only
      rw [ih hne, List.getElem?_set_self hj]
      cases m with
      | leaf t => simp [childrenAt, hm, Node.children] at h
      | delimited b o cs' c => rfl
      | marked t cs' => rfl

/-- Nodes put in the place of another are there one behind the other. -/
theorem node?_splice (h : d.node? i up = some n) {nodes : List Node} {k : Nat} {m : Node}
    (hk : nodes[k]? = some m) : (d.splice i up nodes).node? (i + k) up = some m := by
  have hne := childrenAt_ne_nil h
  have hlen := length_take_childrenAt h
  have hlt := (List.getElem?_eq_some_iff.1 hk).1
  rw [node?, splice]
  simp only [childrenAt_exchange hne]
  rw [List.getElem?_append_right (by omega), hlen, Nat.add_sub_cancel_left,
    List.getElem?_append_left hlt, hk]

end Document

namespace Cursor

variable {c c' : Cursor} {i : Nat} {up : Trail}

/-- The first form at or behind an index is the first of those from there on. -/
theorem formFrom?_eq (ns : List Node) (k : Nat) :
    formFrom? ns k = (Node.formIndexes k (ns.drop k)).head? := (Node.head?_formIndexes _ _).symm

/-- The last form before an index is the last of those up to there. -/
theorem formBefore?_eq (ns : List Node) (k : Nat) :
    formBefore? ns k = (Node.formIndexes 0 (ns.take k)).getLast? := by
  rw [Node.getLast?_formIndexes, formBefore?]
  simp only [Nat.zero_add]

/-! ## Rows of forms -/

/-- The end marker of the document that the cursor is in. -/
def toEnd (c : Cursor) : Cursor := c.at? none

/-- The cursors on the forms inside the form at a trail, in order. -/
def rowAt (c : Cursor) (up : Trail) : List Cursor :=
  (Node.formIndexes 0 (c.document.childrenAt up)).map fun j => c.at? (some (j, up))

/-- The cursors on all forms beside the one under the cursor, this one among them, in order. -/
def row (c : Cursor) : List Cursor :=
  match c.place with
  | none => []
  | some (_, up) => c.rowAt up

/-- The cursors on the forms inside the one under the cursor, in order. -/
def rowInside (c : Cursor) : List Cursor :=
  match c.place with
  | none => []
  | some (i, up) => c.rowAt (i :: up)

/-- Whether a cursor that is not at the end marker is on a form. -/
def OnForm (c : Cursor) : Prop :=
  ∀ i up, c.place = some (i, up) → ∃ n, c.document.node? i up = some n ∧ n.isTrivia = false

@[simp] theorem at?_at? (c : Cursor) (p q : Option (Nat × Trail)) : (c.at? p).at? q = c.at? q := rfl

theorem at?_place (h : c.place = some (i, up)) : c.at? (some (i, up)) = c := by
  rw [← h]
  rfl

theorem toEnd_of_isEnd (h : c.isEnd = true) : c.toEnd = c := by
  have hp : c.place = none := by simpa [isEnd] using h
  rw [toEnd, ← hp]
  rfl

theorem exists_place (h : c.isEnd = false) : ∃ i up, c.place = some (i, up) := by
  cases hp : c.place with
  | none => simp [isEnd, hp] at h
  | some p => exact ⟨p.1, p.2, rfl⟩

/-- The nodes of a row are the forms among the nodes there. -/
theorem map_node?_rowAt (c : Cursor) (up : Trail) :
    (c.rowAt up).map node? = (Node.semantic (c.document.childrenAt up)).map some := by
  rw [rowAt, List.map_map, ← Node.map_formIndexes 0]
  rfl

theorem head?_rowAt (c : Cursor) (up : Trail) :
    (c.rowAt up).head? =
      (formFrom? (c.document.childrenAt up) 0).map fun j => c.at? (some (j, up)) := by
  rw [rowAt, List.head?_map, formFrom?_eq, List.drop_zero]

/-! ## Moves along a row -/

section Moves

variable {before behind : List Nat}

/-- A form stands in its row, with those before it and those behind it. -/
theorem OnForm.exists_split (h : c.OnForm) (hp : c.place = some (i, up)) :
    ∃ before behind, Node.formIndexes 0 (c.document.childrenAt up) = before ++ i :: behind := by
  obtain ⟨n, hn, htriv⟩ := h i up hp
  exact Node.exists_formIndexes_split hn htriv

theorem next_eq (hp : c.place = some (i, up))
    (h : Node.formIndexes 0 (c.document.childrenAt up) = before ++ i :: behind) :
    c.next = c.at? (behind.head?.map fun j => (j, up)) := by
  obtain ⟨-, -, hbehind⟩ := Node.formIndexes_split h
  rw [Nat.sub_zero] at hbehind
  simp only [next, hp, formFrom?_eq, ← hbehind]

theorem prev_eq (hp : c.place = some (i, up))
    (h : Node.formIndexes 0 (c.document.childrenAt up) = before ++ i :: behind) :
    c.prev = c.at? (before.getLast?.map fun j => (j, up)) := by
  obtain ⟨-, hbefore, -⟩ := Node.formIndexes_split h
  rw [Nat.sub_zero] at hbefore
  simp only [prev, hp, formBefore?_eq, ← hbefore]

/-- The siblings are the form and those behind it, as moving on meets them. -/
theorem siblings_eq (hp : c.place = some (i, up))
    (h : Node.formIndexes 0 (c.document.childrenAt up) = before ++ i :: behind) :
    c.siblings = (i :: behind).map fun j => c.at? (some (j, up)) := by
  induction behind generalizing c i before with
  | nil =>
    have hnext : c.next.isEnd = true := by rw [next_eq hp h]; rfl
    rw [siblings, if_neg (by simp [isEnd, hp]), siblings, if_pos hnext, List.map_singleton,
      at?_place hp]
  | cons j behind ih =>
    have hnext : c.next = c.at? (some (j, up)) := next_eq hp h
    have hsplit : Node.formIndexes 0 (c.document.childrenAt up) = (before ++ [i]) ++ j :: behind := by
      rw [h, List.append_assoc, List.singleton_append]
    have hj := ih (c := c.next) (by rw [hnext]; rfl) (by rw [hnext]; exact hsplit)
    rw [siblings, if_neg (by simp [isEnd, hp]), hj, hnext, List.map_cons (a := i), at?_place hp]
    rfl

/-- Moving on and back leads to where the cursor was. -/
theorem isEnd_next_or (hp : c.place = some (i, up))
    (h : Node.formIndexes 0 (c.document.childrenAt up) = before ++ i :: behind) :
    c.next.isEnd = true ∨ c.next.prev = c := by
  cases behind with
  | nil =>
    left
    rw [next_eq hp h]
    rfl
  | cons j behind =>
    right
    have hnext : c.next = c.at? (some (j, up)) := next_eq hp h
    have hsplit : Node.formIndexes 0 (c.document.childrenAt up) = (before ++ [i]) ++ j :: behind := by
      rw [h, List.append_assoc, List.singleton_append]
    rw [hnext, prev_eq (c := c.at? (some (j, up))) rfl hsplit, List.getLast?_concat]
    exact at?_place hp

/-- Moving back and on leads to where the cursor was. -/
theorem isEnd_prev_or (hp : c.place = some (i, up))
    (h : Node.formIndexes 0 (c.document.childrenAt up) = before ++ i :: behind) :
    c.prev.isEnd = true ∨ c.prev.next = c := by
  have hprev := prev_eq hp h
  rcases List.eq_nil_or_concat before with rfl | ⟨before, j, rfl⟩
  · left
    rw [hprev]
    rfl
  · right
    rw [List.concat_eq_append] at h hprev
    rw [List.getLast?_concat] at hprev
    have hprev : c.prev = c.at? (some (j, up)) := hprev
    rw [List.append_assoc, List.singleton_append] at h
    rw [hprev, next_eq (c := c.at? (some (j, up))) rfl h]
    exact at?_place hp

end Moves

/-- A form stands in its row. The moves along the row lead to its neighbours there. -/
theorem OnForm.exists_row (h : c.OnForm) (hp : c.place = some (i, up)) :
    ∃ before behind, c.row = before ++ c :: behind ∧ c.next = behind.head?.getD c.toEnd ∧
      c.prev = before.getLast?.getD c.toEnd ∧ c.siblings = c :: behind := by
  obtain ⟨before, behind, hsplit⟩ := h.exists_split hp
  have hself := at?_place hp
  refine ⟨before.map fun j => c.at? (some (j, up)), behind.map fun j => c.at? (some (j, up)),
    ?_, ?_, ?_, ?_⟩
  · rw [row, hp]
    simp only [rowAt, hsplit, List.map_append, List.map_cons, hself]
  · rw [next_eq hp hsplit, List.head?_map]
    cases behind.head? <;> rfl
  · rw [prev_eq hp hsplit, List.getLast?_map]
    cases before.getLast? <;> rfl
  · rw [siblings_eq hp hsplit, List.map_cons, hself]

/-! ## Moves inward and outward -/

theorem down_eq (hp : c.place = some (i, up)) :
    c.down = c.rowInside.head?.getD c.toEnd := by
  rw [rowInside, hp]
  simp only [down, hp, head?_rowAt]
  cases formFrom? (c.document.childrenAt (i :: up)) 0 <;> rfl

/-- Moving inward and outward leads to where the cursor was. -/
theorem isEnd_down_or (hp : c.place = some (i, up)) : c.down.isEnd = true ∨ c.down.up = c := by
  simp only [down, hp]
  cases formFrom? (c.document.childrenAt (i :: up)) 0 with
  | none => exact .inl rfl
  | some j => exact .inr (at?_place hp)

/-- Moving outward from a form that is not at the top and inward again leads to the front of its
    row. -/
theorem down_up (hp : c.place = some (i, up)) (hu : c.up.isEnd = false) :
    c.up.rowInside = c.row ∧ c.up.down = c.row.head?.getD c.toEnd := by
  cases up with
  | nil => simp [Cursor.up, hp, isEnd, at?] at hu
  | cons k up =>
    have hup : c.up = c.at? (some (k, up)) := by simp only [Cursor.up, hp]
    have hrow : c.up.rowInside = c.row := by
      rw [hup, row, hp]
      rfl
    refine ⟨hrow, ?_⟩
    rw [down_eq (c := c.up) (by rw [hup]; rfl), hrow, hup]
    rfl

/-- The end marker stays where it is. -/
theorem atEnd_moves (h : c.isEnd = true) :
    c.next = c ∧ c.prev = c ∧ c.up = c ∧ c.down = c ∧ c.siblings = [] := by
  have hend := toEnd_of_isEnd h
  have hp : c.place = none := by simpa [isEnd] using h
  refine ⟨by simp only [next, hp], by simp only [prev, hp], ?_, by simp only [down, hp], ?_⟩
  · simp only [Cursor.up, hp]
    exact hend
  · rw [siblings, if_pos h]

/-! ## Cursors that are reached -/

/-- The cursors that are reached from the first form of a document by moves and edits. -/
inductive Reachable : Cursor → Prop
  | first (d : Document) : Reachable (first d)
  | next {c : Cursor} (h : Reachable c) : Reachable c.next
  | prev {c : Cursor} (h : Reachable c) : Reachable c.prev
  | up {c : Cursor} (h : Reachable c) : Reachable c.up
  | down {c : Cursor} (h : Reachable c) : Reachable c.down
  | sibling {c s : Cursor} (h : Reachable c) (hs : s ∈ c.siblings) : Reachable s
  | splice {c c' : Cursor} {nodes : List Node} (h : Reachable c) (hc : c.splice nodes = .ok c') :
    Reachable c'
  | replace {c c' : Cursor} {node : Node} (h : Reachable c) (hc : c.replace node = .ok c') :
    Reachable c'

theorem onForm_toEnd (c : Cursor) : c.toEnd.OnForm := by
  intro i up h
  cases h

theorem onForm_of_isEnd (h : c.isEnd = true) : c.OnForm := by
  rw [← toEnd_of_isEnd h]
  exact onForm_toEnd c

theorem onForm_of_mem_rowAt {s : Cursor} (h : s ∈ c.rowAt up) : s.OnForm := by
  obtain ⟨j, hj, rfl⟩ := List.mem_map.1 h
  intro k up' hp
  cases hp
  exact Node.exists_of_mem_formIndexes hj

/-- The cursors of a row are on forms. -/
theorem onForm_of_mem_row {s : Cursor} (h : s ∈ c.row) : s.OnForm := by
  rw [row] at h
  split at h
  · cases h
  · exact onForm_of_mem_rowAt h

theorem onForm_getD {s : Option Cursor} (h : ∀ s' ∈ s, s'.OnForm) : (s.getD c.toEnd).OnForm := by
  cases s with
  | none => exact onForm_toEnd c
  | some s => exact h s rfl

theorem OnForm.splice {nodes : List Node} (h : c.OnForm) (hc : c.splice nodes = .ok c') :
    c'.OnForm := by
  cases hp : c.place with
  | none => simp [Cursor.splice, hp] at hc
  | some p =>
    obtain ⟨i, up⟩ := p
    simp only [Cursor.splice, hp, Except.ok.injEq] at hc
    subst hc
    obtain ⟨n, hn, -⟩ := h i up hp
    intro j up' hp'
    obtain ⟨k, hk, hj⟩ := Option.map_eq_some_iff.1 hp'
    cases hj
    rw [formFrom?_eq, List.drop_zero] at hk
    obtain ⟨m, hm, htriv⟩ := Node.exists_of_mem_formIndexes (List.mem_of_head? hk)
    exact ⟨m, Document.node?_splice hn hm, htriv⟩

/-- The neighbours of a form in its row are forms. -/
theorem OnForm.along (h : c.OnForm) :
    c.next.OnForm ∧ c.prev.OnForm ∧ ∀ s ∈ c.siblings, s.OnForm := by
  cases hend : c.isEnd with
  | true =>
    obtain ⟨hnext, hprev, -, -, hsiblings⟩ := atEnd_moves hend
    rw [hnext, hprev, hsiblings]
    exact ⟨h, h, by simp⟩
  | false =>
    obtain ⟨i, up, hp⟩ := exists_place hend
    obtain ⟨before, behind, hrow, hnext, hprev, hsiblings⟩ := h.exists_row hp
    have hmem : ∀ s ∈ before ++ c :: behind, s.OnForm := by
      intro s hs
      rw [← hrow] at hs
      exact onForm_of_mem_row hs
    rw [hnext, hprev, hsiblings]
    refine ⟨onForm_getD fun s hs => hmem s ?_, onForm_getD fun s hs => hmem s ?_, fun s hs => ?_⟩
    · simp [List.mem_of_head? hs]
    · simp [List.mem_of_getLast? hs]
    · exact hmem s (List.mem_append_right _ hs)

theorem onForm_down (c : Cursor) : c.down.OnForm := by
  cases hp : c.place with
  | none => exact onForm_of_isEnd (by simp [Cursor.down, isEnd, hp])
  | some p =>
    rw [down_eq hp, rowInside, hp]
    exact onForm_getD fun s hs => onForm_of_mem_rowAt (List.mem_of_head? hs)

/-- The form around a form is a form. -/
theorem OnForm.outward (h : c.OnForm) : c.up.OnForm := by
  cases hp : c.place with
  | none => exact onForm_of_isEnd (by simp [Cursor.up, hp, isEnd, at?])
  | some p =>
    obtain ⟨i, _ | ⟨k, up⟩⟩ := p
    · exact onForm_of_isEnd (by simp [Cursor.up, hp, isEnd, at?])
    · obtain ⟨n, hn, -⟩ := h i (k :: up) hp
      obtain ⟨m, hm, hcomp⟩ := Document.exists_around hn
      intro j up' hp'
      simp only [Cursor.up, hp, at?, Option.some.injEq, Prod.mk.injEq] at hp'
      obtain ⟨rfl, rfl⟩ := hp'
      refine ⟨m, by simpa only [Cursor.up, hp, at?] using hm, ?_⟩
      cases m with
      | leaf t => cases hcomp
      | delimited b o cs c => rfl
      | marked t cs => rfl

theorem onForm_first (d : Document) : (first d).OnForm := by
  intro i up hp
  obtain ⟨j, hj, hi⟩ := Option.map_eq_some_iff.1 hp
  cases hi
  rw [formFrom?_eq, List.drop_zero] at hj
  exact Node.exists_of_mem_formIndexes (List.mem_of_head? hj)

/-- Every cursor that is reached is on a form, or at the end marker. -/
theorem Reachable.onForm (h : c.Reachable) : c.OnForm := by
  induction h with
  | first d => exact onForm_first d
  | next _ ih => exact ih.along.1
  | prev _ ih => exact ih.along.2.1
  | up _ ih => exact ih.outward
  | down _ _ => exact onForm_down _
  | sibling _ hs ih => exact ih.along.2.2 _ hs
  | splice _ hc ih => exact ih.splice hc
  | replace _ hc ih => exact ih.splice hc

/-! ## What moves do -/

/-- What holds of the moves of a cursor. The form under it is reached through forms that have others
    inside them. The end marker stays where it is. A form stands once in its row, which has the forms
    among the nodes beside it, and the moves lead to its neighbours in the row, to the first of the
    forms inside it and to the form around it. Each move undoes the one the other way. -/
structure Navigable (c : Cursor) : Prop where
  onForm : ∀ i up, c.place = some (i, up) →
    (∃ n, c.document.node? i up = some n ∧ n.isTrivia = false) ∧
    ∀ j rest, (j :: rest) <:+ up → ∃ m, c.document.node? j rest = some m ∧ m.isComposite = true
  atEnd : c.isEnd = true → c.next = c ∧ c.prev = c ∧ c.up = c ∧ c.down = c ∧ c.siblings = []
  nodes : ∀ i up, c.place = some (i, up) →
    c.row.map node? = (Node.semantic (c.document.childrenAt up)).map some ∧
    ∀ n, c.node? = some n → c.rowInside.map node? = (Node.semantic n.children).map some
  along : c.isEnd = false → c.row.Nodup ∧ ∃ before behind, c.row = before ++ c :: behind ∧
    c.next = behind.head?.getD c.toEnd ∧ c.prev = before.getLast?.getD c.toEnd ∧
    c.siblings = c :: behind
  inward : c.isEnd = false → c.down = c.rowInside.head?.getD c.toEnd
  outward : c.isEnd = false →
    (c.up.isEnd = true ↔ c.depth? = some 0) ∧
    (c.up.isEnd = false → c.up.rowInside = c.row ∧ c.up.down = c.row.head?.getD c.toEnd)
  inverse : c.isEnd = false → (c.next.isEnd = true ∨ c.next.prev = c) ∧
    (c.prev.isEnd = true ∨ c.prev.next = c) ∧ (c.down.isEnd = true ∨ c.down.up = c)

theorem nodup_rowAt (c : Cursor) (up : Trail) : (c.rowAt up).Nodup := by
  refine List.pairwise_map.2 ((Node.pairwise_formIndexes 0 _).imp fun hlt heq => ?_)
  simp only [at?, Cursor.mk.injEq, Option.some.injEq, Prod.mk.injEq, true_and, and_true] at heq
  omega

theorem isEnd_up_iff (hp : c.place = some (i, up)) : c.up.isEnd = true ↔ c.depth? = some 0 := by
  cases up <;> simp [Cursor.up, hp, isEnd, at?, depth?]

theorem nodes_of_place (hp : c.place = some (i, up)) :
    c.row.map node? = (Node.semantic (c.document.childrenAt up)).map some ∧
    ∀ n, c.node? = some n → c.rowInside.map node? = (Node.semantic n.children).map some := by
  rw [row, rowInside, hp]
  refine ⟨map_node?_rowAt c up, fun n hn => ?_⟩
  have hi : (c.document.childrenAt up)[i]? = some n := by
    simpa only [node?, hp, Option.bind_some, Document.node?] using hn
  have hcs : c.document.childrenAt (i :: up) = n.children := by rw [Document.childrenAt, hi]
  rw [← hcs]
  exact map_node?_rowAt c (i :: up)

/-- Whatever moves and edits have led to a cursor, it is at the end marker or on a form, and its moves
    lead to the neighbours of the form in the tree without trivia. -/
theorem Reachable.navigable (h : c.Reachable) : c.Navigable := by
  have hform := h.onForm
  refine ⟨fun i up hp => ?_, atEnd_moves, fun i up hp => nodes_of_place hp, fun hend => ?_,
    fun hend => ?_, fun hend => ?_, fun hend => ?_⟩
  · obtain ⟨n, hn, htriv⟩ := hform i up hp
    exact ⟨⟨n, hn, htriv⟩, fun j rest => Document.exists_on_trail hn⟩
  all_goals obtain ⟨i, up, hp⟩ := exists_place hend
  · refine ⟨?_, hform.exists_row hp⟩
    rw [row, hp]
    exact nodup_rowAt c up
  · exact down_eq hp
  · exact ⟨isEnd_up_iff hp, down_up hp⟩
  · obtain ⟨before, behind, hsplit⟩ := hform.exists_split hp
    exact ⟨isEnd_next_or hp hsplit, isEnd_prev_or hp hsplit, isEnd_down_or hp⟩

/-- Into a list behind a comment, where a blank and a quoted symbol take the place of its symbol. -/
theorem navigable_behind_splice :
    let d : Document := ⟨[.leaf ⟨.comment, ";c".toList, 0⟩, .leaf ⟨.newline, ['\n'], 2⟩,
      .delimited .list ⟨.opener, ['('], 3⟩ [.leaf ⟨.atom, ['a'], 4⟩] ⟨.closer, [')'], 5⟩],
      ";c\n(a)".toList⟩
    let nodes : List Node := [.leaf ⟨.whitespace, [' '], 0⟩,
      .marked ⟨.mark, ['\''], 1⟩ [.leaf ⟨.atom, ['b'], 2⟩]]
    ∃ c', (first d).down.splice nodes = .ok c' ∧ Reachable c' ∧ c'.place = some (1, [2]) ∧
      c'.Navigable := by
  intro d nodes
  have hc : (first d).down.splice nodes = .ok _ := rfl
  have h := Reachable.splice (.down (.first d)) hc
  exact ⟨_, hc, h, rfl, Reachable.navigable h⟩

end Cursor

end FormEdit
