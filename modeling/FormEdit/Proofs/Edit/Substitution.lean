import FormEdit.Proofs.Document.Alone
import FormEdit.Proofs.Document.Exchange
import FormEdit.Proofs.Document.Join
import FormEdit.Proofs.Document.Lossless
import FormEdit.Proofs.Edit.Wrap
import FormEdit.Proofs.Token.Growth
import Mathlib.Data.List.Permutation

set_option autoImplicit false

/-! # Substitution of texts and of trees

A template that is nothing but its placeholder gives back the form, so a wrap with it leaves the
source as it is (`nodes_stand_alone`). A template whose placeholder stands between blanks and
brackets takes in a form as a tree does: the document of the text is that of the template with the
form in the place of one leaf (`wrapForm_substitutes`). -/

namespace FormEdit

/-! ## Templates with one place -/

/-- Whether the pieces `head` and `tail` stand around the one place of a template. An empty
    placeholder marks no place. -/
structure Template.HasPlace (t : Template) (head tail : List Char) : Prop where
  marked : t.placeholder ≠ []
  valid : t.isValid = true
  around : IsFirstCut t.placeholder t.text head tail

namespace Template.HasPlace

variable {t : Template} {head tail : List Char}

/-- A form goes between the pieces. -/
theorem render_eq (h : t.HasPlace head tail) (form : List Char) :
    t.render form = some (head ++ (form ++ tail)) := by
  have hcount : occurrences t.placeholder t.text = 1 := by
    simpa [isValid, markerCount] using h.valid
  have hne : ¬t.placeholder.isEmpty = true := by
    simpa using h.marked
  rw [render, if_neg hne, cutAt_of_isFirstCut h.marked hcount h.around]

/-- A placeholder alone has its place between nothing and nothing. -/
theorem alone {m : List Char} (hm : m ≠ []) : HasPlace ⟨m, m⟩ [] [] where
  marked := hm
  valid := by simp [isValid, markerCount, occurrences_self hm]
  around := isFirstCut_self m

end Template.HasPlace

/-! ## The placeholder alone -/

/-- A form that goes into the placeholder alone comes out as it is, so nothing is exchanged. -/
theorem wrapSource_alone {source m : List Char} {line : Int} {f : LocatedForm}
    (h : locate source line = some f) (hm : m ≠ []) :
    wrapSource source line ⟨m, m⟩ = .ok source := by
  obtain ⟨d, i, n, hline, hd, hat, -⟩ := exists_placed_of_locate h
  have hplace := Template.HasPlace.alone hm
  have hrender : Template.render ⟨m, m⟩ n.text = some n.text := by
    simpa using hplace.render_eq n.text
  have hnode : d.node? i [] = some n := hat.1.1
  obtain ⟨p, -, hparse⟩ := Document.parse_text_of_node? hd hnode
  have hone : (Document.mk [n.shift (-p.offset)] n.text).forms.length = 1 := by
    have hn : n.isTrivia = false := hat.1.2.1
    simp [Document.forms, Node.semantic, hn]
  exact wrapSource_eq_ok_iff.2 ⟨⟨d, i, n, n.text, _, d, hline, hplace.valid, hd, hat, hrender,
    hparse, hone, Document.source_eq hd hat.1.1, hd, rfl⟩⟩

/-- The text of a node at any place of a document, read by itself, is a document with this one node,
    moved to the front by where it starts. So a located form that goes into the placeholder alone
    leaves the source as it is. -/
theorem nodes_stand_alone :
    (∀ source d i up n, Document.parse source = .ok d → d.node? i up = some n →
      ∃ p, d.startOf? i up = some p ∧
        Document.parse n.text = .ok ⟨[n.shift (-p.offset)], n.text⟩) ∧
    ∀ (s : String) (line : Int) (f : LocatedForm) (arg : TemplateArgument) (m : List Char),
      locateValue (.text s) (.int line) = some f → m ≠ [] → arg.resolve = .ok ⟨m, m⟩ →
        wrapSourceValue (.text s) (.int line) arg = .ok s.toList := by
  refine ⟨fun source d i up n hd hn => Document.parse_text_of_node? hd hn, ?_⟩
  intro s line f arg m hf hm harg
  have hloc : locate s.toList line = some f := hf
  exact wrapSourceValue_eq_ok_iff.2 ⟨s, line, ⟨m, m⟩, rfl, rfl, harg, wrapSource_alone hloc hm⟩

/-- A quoted list behind a symbol, with the list taken out and the symbol wrapped in nothing. -/
theorem nodes_stand_alone_quoted_list :
    (∃ p, Document.startOf? ⟨[.leaf ⟨.atom, ['a'], 0⟩, .leaf ⟨.whitespace, [' '], 1⟩,
          .marked ⟨.mark, ['\''], 2⟩ [.delimited .list ⟨.opener, ['('], 3⟩
            [.leaf ⟨.atom, ['b'], 4⟩] ⟨.closer, [')'], 5⟩]], "a '(b)".toList⟩ 0 [2] = some p ∧
        Document.parse "(b)".toList = .ok ⟨[.delimited .list ⟨.opener, ['('], 3 - p.offset⟩
          [.leaf ⟨.atom, ['b'], 4 - p.offset⟩] ⟨.closer, [')'], 5 - p.offset⟩], "(b)".toList⟩) ∧
      wrapSourceValue (.text "a '(b)") (.int 1) (.plain (.text "%s")) = .ok "a '(b)".toList :=
  ⟨nodes_stand_alone.1 "a '(b)".toList _ 0 [2] (.delimited .list ⟨.opener, ['('], 3⟩
      [.leaf ⟨.atom, ['b'], 4⟩] ⟨.closer, [')'], 5⟩) (by cbv) rfl,
    nodes_stand_alone.2 "a '(b)" 1 ⟨0, .leaf ⟨.atom, ['a'], 0⟩, ⟨0, 1, 1⟩, 1⟩ _ "%s".toList (by cbv)
      (by decide) rfl⟩

/-! ## A form between blanks and brackets -/

/-- A token before a place that opens stays apart from a form in it, if it did from a letter. -/
theorem Token.Whole.standsBefore_form {t : Token} {n : Node} {o : Int} (h : t.Whole)
    (hlast : ∀ c ∈ t.text.getLast?, opensPlace c = true) (hx : t.absorbs 'x' = false)
    (hn : n.Proper) (hscan : IsScan o n.tokens) (hsem : n.isTrivia = false) :
    t.StandsBefore n.text := by
  obtain ⟨u, us, htok, htriv⟩ := hn.exists_cons
  have hu : u.Whole := hscan.whole u (by simp [htok])
  have hb := h.standsBefore_of_opensPlace hlast hx hu (htriv.trans hsem)
  obtain ⟨c, s, hc, -⟩ := hu
  intro x hx
  refine hb x ?_
  simpa [Node.text, htok, hc] using hx

/-- The tokens before a letter that is a token of its own stay apart from a form in its place, if
    the place opens behind them. -/
theorem Token.IsScan.standsBefore_form {us : List Token} {n : Node} {o p q : Int}
    (h : IsScan o (us ++ [⟨.atom, ['x'], q⟩]))
    (hopens : ∀ c ∈ (textOf us).getLast?, opensPlace c = true)
    (hn : n.Proper) (hscan : IsScan p n.tokens) (hsem : n.isTrivia = false) :
    ∀ u ∈ us.getLast?, u.StandsBefore n.text := by
  intro u hu
  obtain ⟨hus, -, hbefore⟩ := isScan_append.1 h
  have hw : u.Whole := hus.whole u (List.mem_of_getLast? hu)
  have hx : u.absorbs 'x' = false := hbefore u hu 'x' (by simp)
  obtain ⟨ws, rfl⟩ := List.getLast?_eq_some_iff.1 hu
  -- What ends the text before the place is the end of the last token there.
  have hlast : (textOf (ws ++ [u])).getLast? = u.text.getLast? := by
    rw [textOf_append, textOf_cons, textOf_nil, List.append_nil,
      List.getLast?_append_of_ne_nil _ hw.text_ne_nil]
  rw [hlast] at hopens
  exact hw.standsBefore_form hopens hx hn hscan hsem

/-- A form stays apart from what closes its place. -/
theorem Token.IsScan.form_standsBefore {n : Node} {o : Int} {r : List Char} (hn : n.Proper)
    (hscan : IsScan o n.tokens) (hsem : n.isTrivia = false)
    (hcloses : ∀ c ∈ r.head?, closesPlace c = true) :
    ∀ u ∈ n.tokens.getLast?, u.StandsBefore r := by
  intro u hu
  obtain ⟨ws, w, htok, htriv⟩ := hn.exists_concat
  rw [htok, List.getLast?_concat, Option.mem_some_iff] at hu
  subst hu
  have hw : w.Whole := hscan.whole w (by simp [htok])
  exact hw.standsBefore_closesPlace (htriv.trans hsem) hcloses

/-- The tokens around a letter that stands between two pieces of text make up these pieces. -/
theorem Token.textOf_around {us vs : List Token} {head tail : List Char}
    (htiles : Tiles 0 (us ++ [⟨.atom, ['x'], head.length⟩] ++ vs))
    (htext : textOf (us ++ [⟨.atom, ['x'], head.length⟩] ++ vs) = head ++ 'x' :: tail) :
    textOf us = head ∧ textOf vs = tail := by
  rw [List.append_assoc, List.singleton_append] at htiles
  have hlen : (head.length : Int) = (textOf us).length := htiles.offset_eq
  have heq : textOf us ++ ('x' :: textOf vs) = head ++ 'x' :: tail := by
    rw [← htext]
    simp
  obtain ⟨hhead, htail⟩ := List.append_inj heq (by omega)
  exact ⟨hhead, (List.cons.inj htail).2⟩

/-- Where a letter in the place of a template is an atom of its own, between blanks and brackets,
    any form of any document may go there: the result is well formed, and its document is that of
    the template with the form in the place of the letter, laid out anew. -/
theorem wrapForm_substitutes {t : Template} {head tail : List Char} (place : t.HasPlace head tail)
    (hopens : ∀ c ∈ head.getLast?, Token.opensPlace c = true)
    (hcloses : ∀ c ∈ tail.head?, Token.closesPlace c = true)
    {d : Document} {i : Nat} {up : Trail} (hd : Document.parse (head ++ 'x' :: tail) = .ok d)
    (hx : d.node? i up = some (.leaf ⟨.atom, ['x'], head.length⟩))
    {source : List Char} {e : Document} {j : Nat} {down : Trail} {n : Node}
    (he : Document.parse source = .ok e) (hn : e.node? j down = some n)
    (hsem : n.isTrivia = false) :
    wrapForm n.text t = .ok (head ++ (n.text ++ tail)) ∧
      Document.parse (head ++ (n.text ++ tail)) =
        .ok ⟨Node.laidAll 0 (d.splice i up [n]).nodes, head ++ (n.text ++ tail)⟩ := by
  obtain ⟨us, vs, htok, hex⟩ := Document.exists_tokensOf_splice hx
  obtain ⟨-, htext, hscan, -⟩ := Document.parse_eq_ok_iff.1 hd
  rw [Node.tokens_leaf] at htok
  rw [Document.text, Node.textOf, htok] at htext
  rw [htok] at hscan
  obtain ⟨rfl, rfl⟩ := Token.textOf_around hscan.tiles htext
  -- The form is scanned by itself.
  obtain ⟨-, -, hescan, heproper⟩ := Document.parse_eq_ok_iff.1 he
  have hproper := Document.proper_of_node? heproper hn
  obtain ⟨us', vs', hetok⟩ := Document.tokensOf_eq_of_node? hn
  rw [hetok] at hescan
  have hform := hescan.of_infix
  have hbefore : ∀ u ∈ us.getLast?, u.StandsBefore n.text :=
    (Token.isScan_append.1 hscan).1.standsBefore_form hopens hproper hform hsem
  have hbehind : ∀ u ∈ n.tokens.getLast?, u.StandsBefore (Token.textOf vs) :=
    Token.IsScan.form_standsBefore hproper hform hsem hcloses
  have hparse := Document.parse_splice hd hx hproper hform hsem htok hex hbefore hbehind
  exact ⟨wrapForm_eq_ok_iff.2 ⟨place.valid, place.render_eq n.text, _, hparse⟩, hparse⟩

/-- A quoted string goes into a list, between a blank and the closing bracket. -/
theorem wrapForm_substitutes_quoted_string :
    wrapForm "'\"%s\"".toList ⟨"(do %s)".toList, "%s".toList⟩ = .ok "(do '\"%s\")".toList ∧
      Document.parse "(do '\"%s\")".toList = .ok ⟨Node.laidAll 0 (Document.splice
        ⟨[.delimited .list ⟨.opener, ['('], 0⟩ [.leaf ⟨.atom, ['d', 'o'], 1⟩,
          .leaf ⟨.whitespace, [' '], 3⟩, .leaf ⟨.atom, ['x'], 4⟩] ⟨.closer, [')'], 5⟩],
          "(do x)".toList⟩ 2 [0] [.marked ⟨.mark, ['\''], 2⟩
            [.leaf ⟨.string, "\"%s\"".toList, 3⟩]]).nodes, "(do '\"%s\")".toList⟩ := by
  have hplace : Template.HasPlace ⟨"(do %s)".toList, "%s".toList⟩ "(do ".toList ")".toList :=
    ⟨by decide, by decide +kernel, isFirstCut_of_cutAt (by decide +kernel)⟩
  have hd : Document.parse ("(do ".toList ++ 'x' :: ")".toList) = .ok ⟨[.delimited .list
      ⟨.opener, ['('], 0⟩ [.leaf ⟨.atom, ['d', 'o'], 1⟩, .leaf ⟨.whitespace, [' '], 3⟩,
        .leaf ⟨.atom, ['x'], 4⟩] ⟨.closer, [')'], 5⟩], "(do x)".toList⟩ := by cbv
  have he : Document.parse "a '\"%s\"".toList = .ok ⟨[.leaf ⟨.atom, ['a'], 0⟩,
      .leaf ⟨.whitespace, [' '], 1⟩, .marked ⟨.mark, ['\''], 2⟩
        [.leaf ⟨.string, "\"%s\"".toList, 3⟩]], "a '\"%s\"".toList⟩ := by cbv
  have hx : Document.node? ⟨[.delimited .list ⟨.opener, ['('], 0⟩ [.leaf ⟨.atom, ['d', 'o'], 1⟩,
      .leaf ⟨.whitespace, [' '], 3⟩, .leaf ⟨.atom, ['x'], 4⟩] ⟨.closer, [')'], 5⟩],
        "(do x)".toList⟩ 2 [0] = some (.leaf ⟨.atom, ['x'], ("(do ".toList.length : Nat)⟩) := rfl
  have hn : Document.node? ⟨[.leaf ⟨.atom, ['a'], 0⟩, .leaf ⟨.whitespace, [' '], 1⟩,
      .marked ⟨.mark, ['\''], 2⟩ [.leaf ⟨.string, "\"%s\"".toList, 3⟩]], "a '\"%s\"".toList⟩ 2 [] =
        some (.marked ⟨.mark, ['\''], 2⟩ [.leaf ⟨.string, "\"%s\"".toList, 3⟩]) := rfl
  have hopens : ∀ c ∈ "(do ".toList.getLast?, Token.opensPlace c = true := by
    have hlast : "(do ".toList.getLast? = some ' ' := rfl
    rw [hlast]
    rintro c ⟨⟩
    rfl
  have hcloses : ∀ c ∈ ")".toList.head?, Token.closesPlace c = true := by
    have hfirst : ")".toList.head? = some ')' := rfl
    rw [hfirst]
    rintro c ⟨⟩
    rfl
  exact wrapForm_substitutes hplace hopens hcloses hd hx he hn rfl

end FormEdit
