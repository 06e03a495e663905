import FormEdit.Proofs.Document.Hash
import FormEdit.Proofs.Edit.Wrap

set_option autoImplicit false

/-! # A wrap with one list

When what comes of a template is one list, the wrap goes through, and no form but the wrapped one
changes. There is one neighbour that a list does not stay apart from: an atom `#` directly before
it. The form is a vector then, and the wrap is refused since the source would have a form less
(`wrapSource_list`). -/

namespace FormEdit

variable {source w : List Char} {line : Int} {t : Template} {d : Document} {i : Nat} {n : Node}
  {o c : Token} {cs : List Node}

namespace Document

/-- A top-level node that takes the place of one. -/
theorem nodes_splice_set (hi : d.nodes[i]? = some n) (m : Node) :
    (d.splice i [] [m]).nodes = d.nodes.set i m := by
  rw [nodes_splice_top, Node.set_eq_take_cons_drop hi, List.singleton_append]

end Document

/-! ## The exchange of a form for a list -/

/-- A list takes the place of a form that no atom `#` stands before. -/
theorem replaceForm_list (hd : Document.parse source = .ok d) (hi : d.nodes[i]? = some n)
    (hn : n.isTrivia = false) (hw : Document.parse w = .ok ⟨[.delimited .list o cs c], w⟩)
    (hhash : ¬d.BehindHash i) :
    replaceForm d (d.placed i n) w = .ok (d.splice i [] [.delimited .list o cs c]).text := by
  have hread := Document.readable_list hd hi hn hw hhash
  obtain ⟨-, -, hlist, -⟩ := Document.list_of_parse hw
  refine replaceForm_eq_ok_iff.2 ⟨_, _, hw, rfl, ?_, hread.parse_text, ?_⟩
  · rw [Document.text_splice, Node.textOf_cons, hlist, Node.textOf_nil, List.append_nil]
    rfl
  · -- A form stands where a form stood.
    have hsem : (Node.delimited .list o cs c).isTrivia = false := rfl
    refine Node.length_semantic_congr ?_
    rw [Node.map_isTrivia_laidAll, Document.nodes_splice_top]
    conv_rhs => rw [Node.eq_take_cons_drop hi]
    simp [hn, hsem]

/-- A list does not take the place of a form behind an atom `#`, where it would be taken in. -/
theorem replaceForm_behind_hash (hd : Document.parse source = .ok d) (hi : d.nodes[i]? = some n)
    (hn : n.isTrivia = false) (hw : Document.parse w = .ok ⟨[.delimited .list o cs c], w⟩)
    (hhash : d.BehindHash i) :
    replaceForm d (d.placed i n) w =
      .error (.countChanged d.forms.length (d.forms.length - 1)) := by
  obtain ⟨e, hread, hcount, htext⟩ := Document.exists_readable_behind_hash hd hi hn hw hhash
  obtain ⟨-, -, hlist, -⟩ := Document.list_of_parse hw
  have hout : (d.splice i [] [.delimited .list o cs c]).text = e.text := by
    rw [Document.text_splice, Node.textOf_cons, hlist, Node.textOf_nil, List.append_nil, htext]
  have hforms : (Document.mk (Node.laidAll 0 e.nodes) e.text).forms.length = e.forms.length :=
    Node.length_semantic_congr (Node.map_isTrivia_laidAll 0 e.nodes)
  have hone : (Document.mk [.delimited .list o cs c] w).forms.length = 1 := rfl
  have hne : d.forms.length ≠ e.forms.length := by omega
  have hless : e.forms.length = d.forms.length - 1 := by omega
  have hplaced : (d.placed i n).index = i := rfl
  unfold replaceForm
  simp only [hw, hone, hplaced, hout, hread.parse_text, hforms]
  rw [if_neg (by omega), if_pos hne, hless]

/-- A wrap with one list that succeeds has put the list in the place of the form. -/
theorem parse_of_wrapSource_list {out : List Char} (hd : Document.parse source = .ok d)
    (hat : d.IsFormAt line i n) (hr : t.render n.text = some w)
    (hw : Document.parse w = .ok ⟨[.delimited .list o cs c], w⟩)
    (h : wrapSource source line t = .ok out) :
    Document.parse out = .ok ⟨Node.laidAll 0 (d.nodes.set i (.delimited .list o cs c)), out⟩ := by
  obtain ⟨r⟩ := wrapSource_eq_ok_iff.1 h
  obtain ⟨hi, hn, -⟩ := hat.1
  rw [wrapSource_eq_replaceForm r.line_pos hd hat r.valid hr hw] at h
  by_cases hhash : d.BehindHash i
  · rw [replaceForm_behind_hash hd hi hn hw hhash] at h
    cases h
  · rw [replaceForm_list hd hi hn hw hhash] at h
    cases h
    rw [← Document.nodes_splice_set hi]
    exact (Document.readable_list hd hi hn hw hhash).parse_text

/-! ## The whole wrap -/

/-- A wrap with one list goes through, unless an atom `#` stands directly before the form: at the top
    of the source, or as the last token of a form under marks. The outcome is the source with the
    list in the place of the form, and so is, offsets aside, its document. Behind `#` the form is a
    vector and the wrap is refused for the number of forms. -/
theorem wrapSource_list {f : LocatedForm} (hf : locate source line = some f)
    (hv : t.isValid = true) (hr : t.render f.text = some w)
    (hw : Document.parse w = .ok ⟨[.delimited .list o cs c], w⟩) :
    ∃ (d : Document) (k : Nat), Document.parse source = .ok d ∧
      d.nodes[f.index]? = some f.node ∧ f.start.offset = k ∧
      (source.drop k).take f.text.length = f.text ∧
      (¬d.BehindHash f.index → ∃ out e, wrapSource source line t = .ok out ∧
        out = source.take k ++ (w ++ source.drop (k + f.text.length)) ∧
        Document.parse out = .ok e ∧
        Node.bareAll e.nodes =
          (Node.bareAll d.nodes).set f.index (Node.delimited .list o cs c).bare) ∧
      (d.BehindHash f.index → (∃ o cs c, f.node = .delimited .vector o cs c) ∧
        ∃ e, wrapSource source line t = .error e ∧ e.kindName = "insert-failed" ∧
          e = .countChanged d.forms.length (d.forms.length - 1)) := by
  obtain ⟨d, i, n, hline, hd, hat, rfl⟩ := exists_placed_of_locate hf
  obtain ⟨hi, hn, -⟩ := hat.1
  obtain ⟨k, hk, hbefore, hform, hbehind⟩ := Document.exists_start_placed hd hi
  have hwrap := wrapSource_eq_replaceForm hline hd hat hv hr hw
  refine ⟨d, k, hd, hi, hk, hform, fun hhash => ?_, fun hhash => ⟨hhash.eq_vector hd hi hn, ?_⟩⟩
  · rw [replaceForm_list hd hi hn hw hhash] at hwrap
    obtain ⟨-, -, hlist, -⟩ := Document.list_of_parse hw
    refine ⟨_, _, hwrap, ?_, (Document.readable_list hd hi hn hw hhash).parse_text, ?_⟩
    · show _ = source.take k ++ (w ++ source.drop (k + n.text.length))
      rw [hbefore, hbehind, Document.text_splice, Node.textOf_cons, hlist, Node.textOf_nil,
        List.append_nil]
    · rw [Node.bareAll_laidAll, Document.nodes_splice_set hi, Node.bareAll_eq_map,
        Node.bareAll_eq_map, List.map_set]
      rfl
  · rw [replaceForm_behind_hash hd hi hn hw hhash] at hwrap
    exact ⟨_, hwrap, rfl, rfl⟩

/-- A vector between a symbol and a quote, where the list goes through, and one behind a lone `#`,
    where it does not. -/
theorem wrapSource_list_around_vector :
    (∃ out e, wrapSource "b[a\n]'c".toList 2 ⟨"(do %s)".toList, "%s".toList⟩ = .ok out ∧
      out = "b(do [a\n])'c".toList ∧ Document.parse out = .ok e ∧
      Node.bareAll e.nodes = [.leaf ⟨.atom, ['b'], 0⟩,
        .delimited .list ⟨.opener, ['('], 0⟩ [.leaf ⟨.atom, ['d', 'o'], 0⟩,
          .leaf ⟨.whitespace, [' '], 0⟩, .delimited .vector ⟨.opener, ['['], 0⟩
            [.leaf ⟨.atom, ['a'], 0⟩, .leaf ⟨.newline, ['\n'], 0⟩] ⟨.closer, [']'], 0⟩]
          ⟨.closer, [')'], 0⟩,
        .marked ⟨.mark, ['\''], 0⟩ [.leaf ⟨.atom, ['c'], 0⟩]]) ∧
    ∃ e, wrapSource "#[a\n]".toList 2 ⟨"(do %s)".toList, "%s".toList⟩ = .error e ∧
      e.kindName = "insert-failed" := by
  -- In both sources the vector is the second form and starts at offset one.
  let v : Node := .delimited .vector ⟨.opener, ['['], 1⟩
    [.leaf ⟨.atom, ['a'], 2⟩, .leaf ⟨.newline, ['\n'], 3⟩] ⟨.closer, [']'], 4⟩
  let f : LocatedForm := ⟨1, v, ⟨1, 1, 2⟩, 2⟩
  have hv : Template.isValid ⟨"(do %s)".toList, "%s".toList⟩ = true := by decide +kernel
  have hr : Template.render ⟨"(do %s)".toList, "%s".toList⟩ f.text =
      some "(do [a\n])".toList := by cbv
  have hw : Document.parse "(do [a\n])".toList = .ok ⟨[.delimited .list ⟨.opener, ['('], 0⟩
      [.leaf ⟨.atom, ['d', 'o'], 1⟩, .leaf ⟨.whitespace, [' '], 3⟩,
        .delimited .vector ⟨.opener, ['['], 4⟩ [.leaf ⟨.atom, ['a'], 5⟩,
          .leaf ⟨.newline, ['\n'], 6⟩] ⟨.closer, [']'], 7⟩] ⟨.closer, [')'], 8⟩],
      "(do [a\n])".toList⟩ := by cbv
  constructor
  · have hf : locate "b[a\n]'c".toList 2 = some f := by cbv
    have hparse : Document.parse "b[a\n]'c".toList = .ok ⟨[.leaf ⟨.atom, ['b'], 0⟩, v,
        .marked ⟨.mark, ['\''], 5⟩ [.leaf ⟨.atom, ['c'], 6⟩]], "b[a\n]'c".toList⟩ := by cbv
    obtain ⟨d, k, hd, -, hk, -, hok, -⟩ := wrapSource_list hf hv hr hw
    cases hparse.symm.trans hd
    cases hk
    have hno : ¬Document.BehindHash ⟨[.leaf ⟨.atom, ['b'], 0⟩, v,
        .marked ⟨.mark, ['\''], 5⟩ [.leaf ⟨.atom, ['c'], 6⟩]], "b[a\n]'c".toList⟩ 1 := by
      rintro ⟨t, ⟨⟩, -, htext⟩
      cases htext
    obtain ⟨out, e, hwrap, hout, he, hnodes⟩ := hok hno
    exact ⟨out, e, hwrap, hout, he, hnodes⟩
  · have hf : locate "#[a\n]".toList 2 = some f := by cbv
    have hparse : Document.parse "#[a\n]".toList =
        .ok ⟨[.leaf ⟨.atom, ['#'], 0⟩, v], "#[a\n]".toList⟩ := by cbv
    obtain ⟨d, k, hd, -, -, -, -, herror⟩ := wrapSource_list hf hv hr hw
    cases hparse.symm.trans hd
    obtain ⟨-, e, hwrap, hkind, -⟩ := herror ⟨_, rfl, rfl, rfl⟩
    exact ⟨e, hwrap, hkind⟩

/-- A `#` that ends a quoted form takes in a list that comes behind it as well, although no top-level
    form is an atom `#`. -/
theorem wrapSource_list_behind_quoted_hash :
    ∃ (f : LocatedForm) (o c : Token) (cs : List Node),
      locate "'#[a\n]".toList 2 = some f ∧
      Template.isValid ⟨"(do %s)".toList, "%s".toList⟩ = true ∧
      Template.render ⟨"(do %s)".toList, "%s".toList⟩ f.text = some "(do [a\n])".toList ∧
      Document.parse "(do [a\n])".toList =
        .ok ⟨[.delimited .list o cs c], "(do [a\n])".toList⟩ ∧
      (Document.formsOf? "'#[a\n]".toList).map (·.map Node.text) =
        some ["'#".toList, "[a\n]".toList] ∧
      wrapSource "'#[a\n]".toList 2 ⟨"(do %s)".toList, "%s".toList⟩ =
        .error (.countChanged 2 1) :=
  ⟨⟨1, .delimited .vector ⟨.opener, ['['], 2⟩ [.leaf ⟨.atom, ['a'], 3⟩,
      .leaf ⟨.newline, ['\n'], 4⟩] ⟨.closer, [']'], 5⟩, ⟨2, 1, 3⟩, 2⟩, ⟨.opener, ['('], 0⟩,
    ⟨.closer, [')'], 8⟩, [.leaf ⟨.atom, ['d', 'o'], 1⟩, .leaf ⟨.whitespace, [' '], 3⟩,
      .delimited .vector ⟨.opener, ['['], 4⟩ [.leaf ⟨.atom, ['a'], 5⟩,
        .leaf ⟨.newline, ['\n'], 6⟩] ⟨.closer, [']'], 7⟩],
    by cbv, by decide +kernel, by cbv, by cbv, by decide +kernel, by cbv⟩

end FormEdit
