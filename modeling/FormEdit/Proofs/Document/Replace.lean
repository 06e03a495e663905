import FormEdit.Proofs.Document.Exchange
import FormEdit.Proofs.Document.Moves
import FormEdit.Proofs.Token.Lines
import Mathlib.Data.List.Permutation

set_option autoImplicit false

/-! # Bracketed forms exchanged in a tree

A bracketed form stops where it ends, and what stands before it sees only the text that opens it. So
one that takes the place of another that opens alike stays apart from the tokens around it, at any
depth and under any marks. A document that comes of such exchanges, however many, is what its text
is read as, but for the offsets (`Cursor.Edited.reads_back`). -/

namespace FormEdit

namespace Node

/-! ## Trees without offsets -/

mutual

/-- A node with all its tokens at offset zero: what is left is its structure. -/
def bare : Node → Node
  | leaf t => leaf { t with offset := 0 }
  | delimited b o cs c =>
    delimited b { o with offset := 0 } (bareAll cs) { c with offset := 0 }
  | marked m cs => marked { m with offset := 0 } (bareAll cs)

/-- Nodes with all their tokens at offset zero. -/
def bareAll : List Node → List Node
  | [] => []
  | n :: ns => n.bare :: bareAll ns

end

theorem bareAll_eq_map (ns : List Node) : bareAll ns = ns.map bare := by
  induction ns with
  | nil => rfl
  | cons n ns ih => rw [bareAll, List.map_cons, ih]

mutual

/-- Laying out anew changes offsets only. -/
theorem bare_laid (o : Int) (n : Node) : (n.laid o).bare = n.bare := by
  match n with
  | .leaf t => rfl
  | .delimited b t cs c => rw [laid, bare, bare, bareAll_laidAll]
  | .marked m cs => rw [laid, bare, bare, bareAll_laidAll]

theorem bareAll_laidAll (o : Int) (ns : List Node) : bareAll (laidAll o ns) = bareAll ns := by
  match ns with
  | [] => rfl
  | n :: ns => rw [laidAll, bareAll, bareAll, bare_laid, bareAll_laidAll]

end

/-! ## Forms that open alike -/

/-- Whether two nodes are bracketed forms that are opened by the same text. -/
def OpensAlike : Node → Node → Prop
  | delimited _ o _ _, delimited _ o' _ _ => o'.text = o.text
  | _, _ => False

theorem OpensAlike.isTrivia {n m : Node} (h : n.OpensAlike m) : m.isTrivia = false := by
  match n, m, h with
  | .delimited .., .delimited .., _ => rfl

/-- Whether a node is one of a document that was read. -/
def IsRead (n : Node) : Prop :=
  ∃ source d i up, Document.parse source = .ok d ∧ d.node? i up = some n

/-- The tokens of a node that was read are a scan by themselves. -/
theorem IsRead.proper_isScan {n : Node} (h : n.IsRead) :
    n.Proper ∧ ∃ o, Token.IsScan o n.tokens := by
  obtain ⟨source, d, i, up, hd, hn⟩ := h
  obtain ⟨-, -, hscan, hproper⟩ := Document.parse_eq_ok_iff.1 hd
  obtain ⟨us, vs, htok⟩ := Document.tokensOf_eq_of_node? hn
  rw [htok] at hscan
  exact ⟨Document.proper_of_node? hproper hn, _, hscan.of_infix⟩

/-- A proper bracketed form starts with the first character of the text that opens it. -/
theorem Proper.head?_text {b : Bracket} {o c : Token} {cs : List Node}
    (h : (Node.delimited b o cs c).Proper) : (Node.delimited b o cs c).text.head? = o.text.head? := by
  cases h with
  | delimited opens opening closes closing inside =>
    have hne : o.text ≠ [] := by
      rw [opening]
      cases b <;> exact List.cons_ne_nil _ _
    rw [text, tokens_delimited, Token.textOf_cons, List.head?_append_of_ne_nil _ hne]

/-- What stays as it is before a bracketed form does so before one that opens alike. -/
theorem OpensAlike.standsBefore {n m : Node} {t : Token} (h : n.OpensAlike m) (hn : n.Proper)
    (hm : m.Proper) (ht : t.StandsBefore n.text) : t.StandsBefore m.text := by
  match n, m, h with
  | .delimited _ o _ _, .delimited _ o' _ _, h =>
    have hsame : o'.text = o.text := h
    intro x hx
    rw [hm.head?_text, hsame] at hx
    refine ht x ?_
    rwa [hn.head?_text]

/-- A bracketed form stays as it is before anything. -/
theorem Proper.standsBefore_closed {b : Bracket} {o c : Token} {cs : List Node} {p : Int}
    (h : (Node.delimited b o cs c).Proper) (hscan : Token.IsScan p (Node.delimited b o cs c).tokens)
    (r : List Char) : ∀ t ∈ (Node.delimited b o cs c).tokens.getLast?, t.StandsBefore r := by
  cases h with
  | delimited opens opening closes closing inside =>
    intro t ht
    have hlast : (Node.delimited b o cs c).tokens = (o :: tokensOf cs) ++ [c] := by simp
    rw [hlast, List.getLast?_concat, Option.mem_some_iff] at ht
    subst ht
    exact (hscan.whole c (by simp)).standsBefore_closer closes r

end Node

namespace Document

/-- A document that reads as it is does so with a bracketed form in the place of one that opens
    alike. -/
theorem Readable.replace {d : Document} {i : Nat} {up : Trail} {n m : Node} (hd : d.Readable)
    (hn : d.node? i up = some n) (halike : n.OpensAlike m) (hm : m.IsRead) :
    (d.splice i up [m]).Readable := by
  obtain ⟨us, vs, htok, hex⟩ := exists_tokensOf_splice hn
  obtain ⟨hmproper, o, hmscan⟩ := hm.proper_isScan
  have hnproper := proper_of_node? hd.proper hn
  have hbefore : ∀ t ∈ us.getLast?, t.StandsBefore m.text := by
    have hscan := hd.scan
    rw [htok, Token.laid_append, Token.laid_append] at hscan
    have hseam := (Token.isScan_append.1 (Token.isScan_append.1 hscan).1).2.2
    rw [Token.standsBefore_laid, Token.textOf_laid] at hseam
    intro t ht
    exact halike.standsBefore hnproper hmproper (hseam t ht)
  match n, m, halike with
  | .delimited .., .delimited .., _ =>
    exact hd.splice hn hmproper hmscan rfl htok hex hbefore (hmproper.standsBefore_closed hmscan _)

end Document

namespace Cursor

/-- The cursors that come of a document that was read, by moves to any place and by bracketed forms
    that were read taking the places of bracketed forms that open alike. -/
inductive Edited : Cursor → Prop
  | read {source : List Char} {d : Document} (place : Option (Nat × Trail))
      (h : Document.parse source = .ok d) : Edited ⟨d, place⟩
  | move {c : Cursor} (place : Option (Nat × Trail)) (h : Edited c) : Edited (c.at? place)
  | replace {c c' : Cursor} {n m : Node} (h : Edited c) (hn : c.node? = some n)
      (halike : n.OpensAlike m) (hm : m.IsRead) (hc : c.replace m = .ok c') : Edited c'

variable {c : Cursor} {n : Node}

/-- Replacing the node under a cursor gives a cursor on the new node. -/
theorem exists_replace (hn : c.node? = some n) (m : Node) :
    ∃ i up, c.document.node? i up = some n ∧ (m.isTrivia = false →
      c.replace m = .ok ⟨c.document.splice i up [m], some (i, up)⟩) := by
  obtain ⟨⟨i, up⟩, hp, hi⟩ := Option.bind_eq_some_iff.1 hn
  refine ⟨i, up, hi, fun hm => ?_⟩
  unfold replace splice
  simp [hp, formFrom?, hm]

/-- However many bracketed forms have been exchanged, the document reads as it is. -/
theorem Edited.readable (h : c.Edited) : c.document.Readable := by
  induction h with
  | read place h => exact .of_parse h
  | move place _ ih => exact ih
  | @replace c c' n m _ hn halike hm hc ih =>
    obtain ⟨i, up, hi, hok⟩ := exists_replace hn m
    rw [hok halike.isTrivia] at hc
    cases hc
    exact ih.replace hi halike hm

/-- After any number of exchanges of bracketed forms, each for one that opens alike, the text of the
    document is well formed and is read as the same tree, offsets aside. Every further exchange can
    be made. -/
theorem Edited.reads_back (h : c.Edited) :
    (∃ d, Document.parse c.rootText = .ok d ∧
      Node.bareAll d.nodes = Node.bareAll c.document.nodes) ∧
    ∀ n m, c.node? = some n → n.OpensAlike m → m.IsRead →
      ∃ c', c.replace m = .ok c' ∧ c'.node? = some m ∧ c'.Edited := by
  refine ⟨⟨_, h.readable.parse_text, Node.bareAll_laidAll 0 _⟩, fun n m hn halike hm => ?_⟩
  obtain ⟨i, up, hi, hok⟩ := exists_replace hn m
  have hc := hok halike.isTrivia
  refine ⟨_, hc, ?_, .replace h hn halike hm hc⟩
  show (c.document.splice i up [m]).node? i up = some m
  exact Document.node?_splice (k := 0) hi (rfl : [m][0]? = some m)

/-- A longer list in the place of a quoted one, before an atom. -/
theorem reads_back_quoted_list :
    let d : Document := ⟨[.marked ⟨.mark, ['\''], 0⟩ [.delimited .list ⟨.opener, ['('], 1⟩
      [.leaf ⟨.atom, ['a'], 2⟩] ⟨.closer, [')'], 3⟩], .leaf ⟨.whitespace, [' '], 4⟩,
      .leaf ⟨.atom, ['d'], 5⟩], "'(a) d".toList⟩
    let m : Node := .delimited .list ⟨.opener, ['('], 1⟩ [.leaf ⟨.atom, ['b'], 2⟩,
      .leaf ⟨.whitespace, [' '], 3⟩, .leaf ⟨.atom, ['c'], 4⟩] ⟨.closer, [')'], 5⟩
    ∃ c' : Cursor, Cursor.replace ⟨d, some (0, [0])⟩ m = .ok c' ∧ c'.Edited ∧
      c'.rootText = "'(b c) d".toList ∧
      ∃ e, Document.parse c'.rootText = .ok e ∧
        Node.bareAll e.nodes = Node.bareAll c'.document.nodes := by
  intro d m
  have hd : Document.parse "'(a) d".toList = .ok d := by cbv
  have hm : m.IsRead := by
    have he : Document.parse "[(b c)]".toList = .ok ⟨[.delimited .vector ⟨.opener, ['['], 0⟩ [m]
        ⟨.closer, [']'], 6⟩], "[(b c)]".toList⟩ := by cbv
    exact ⟨_, _, 0, [0], he, rfl⟩
  have hc : Cursor.replace ⟨d, some (0, [0])⟩ m = .ok _ := rfl
  have h := Edited.replace (m := m) (.read (some (0, [0])) hd) rfl rfl hm hc
  exact ⟨_, hc, h, rfl, (Edited.reads_back h).1⟩

end Cursor

end FormEdit
