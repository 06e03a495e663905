import FormEdit.Proofs.Document.Join
import FormEdit.Proofs.Edit.Wrap

set_option autoImplicit false

/-! # What a wrap does to the forms around it

A wrap looks at the number of forms only, so a form next to the place may change: the token before
the place may go on over the front of the wrapped text, and a comment at the end of this text over
what is behind. The seams on both sides tell when this happens. The forms have the texts that they
should have exactly when both are clean (`wrapSource_keeps_forms_iff`). -/

namespace FormEdit

namespace Wrapping

variable {source out : List Char} {line : Int} {t : Template}

/-- The top-level nodes before the form. -/
def before (r : Wrapping source line t out) : List Node := r.document.nodes.take r.index

/-- The top-level nodes behind the form. -/
def behind (r : Wrapping source line t out) : List Node := r.document.nodes.drop (r.index + 1)

/-- The number of forms before the form. -/
def rank (r : Wrapping source line t out) : Nat := (Node.semantic r.before).length

/-- Whether the wrapped text meets what is before and behind the place without a change to forms. -/
def clean (r : Wrapping source line t out) : Bool :=
  Token.cleanSeam (Node.tokensOf r.before) (Node.tokensOf r.fragment.nodes) &&
    Token.cleanSeam (Node.tokensOf r.fragment.nodes) (Node.tokensOf r.behind)

/-- Where the forms should be: those before the form where they were, that of the wrapped text where
    this is put, and those behind moved by what the text has become longer. -/
def expected (r : Wrapping source line t out) : List (Int × List Char) :=
  r.document.spans.take r.rank ++
    (Node.moveSpans (Node.textOf r.before).length r.fragment.spans ++
      Node.moveSpans (r.wrapped.length - r.form.text.length) (r.document.spans.drop (r.rank + 1)))

theorem nodes_eq (r : Wrapping source line t out) :
    r.document.nodes = r.before ++ r.form :: r.behind :=
  Node.eq_take_cons_drop r.located.1.1

theorem spans_eq (r : Wrapping source line t out) :
    r.document.spans = Node.spans 0 r.before ++
      (((Node.textOf r.before).length : Int), r.form.text) ::
        Node.spans ((Node.textOf r.before).length + r.form.text.length) r.behind := by
  have hform : r.form.isTrivia = false := r.located.1.2.1
  rw [Document.spans_eq, r.nodes_eq, Node.spans_append, Int.zero_add, Node.spans,
    if_neg (by simp [hform])]

theorem expected_eq (r : Wrapping source line t out) :
    r.expected = Node.spans 0 r.before ++
      (Node.spans (Node.textOf r.before).length r.fragment.nodes ++
        Node.spans ((Node.textOf r.before).length + r.wrapped.length) r.behind) := by
  have hlen : r.rank = (Node.spans 0 r.before).length := (Node.length_spans 0 r.before).symm
  have hoff : ((Node.textOf r.before).length : Int) + r.wrapped.length =
      (Node.textOf r.before).length + r.form.text.length +
        (r.wrapped.length - r.form.text.length) := by omega
  have hdrop : r.document.spans.drop (r.rank + 1) =
      Node.spans ((Node.textOf r.before).length + r.form.text.length) r.behind := by
    rw [r.spans_eq, hlen, ← List.drop_drop, List.drop_left, List.drop_one, List.tail_cons]
  rw [expected, hdrop, ← Node.spans_add, ← hoff, Document.spans_eq r.fragment, ← Node.spans_add,
    Int.zero_add, r.spans_eq, hlen, List.take_left]

/-! ## The pieces are scanned as they were -/

theorem proper (r : Wrapping source line t out) : ∀ n ∈ r.document.nodes, n.Proper :=
  (Document.parse_eq_ok_iff.1 r.parse_source).2.2.2

theorem proper_before (r : Wrapping source line t out) : ∀ n ∈ r.before, n.Proper :=
  fun n hn => r.proper n (by simp [r.nodes_eq, hn])

theorem proper_behind (r : Wrapping source line t out) : ∀ n ∈ r.behind, n.Proper :=
  fun n hn => r.proper n (by simp [r.nodes_eq, hn])

theorem proper_fragment (r : Wrapping source line t out) : ∀ n ∈ r.fragment.nodes, n.Proper :=
  (Document.parse_eq_ok_iff.1 r.parse_wrapped).2.2.2

theorem isScan_before (r : Wrapping source line t out) :
    Token.IsScan 0 (Node.tokensOf r.before) := by
  have hscan := (Document.parse_eq_ok_iff.1 r.parse_source).2.2.1
  rw [r.nodes_eq, Node.tokensOf_append] at hscan
  exact (Token.isScan_append.1 hscan).1

theorem isScan_behind (r : Wrapping source line t out) :
    ∃ o, Token.IsScan o (Node.tokensOf r.behind) := by
  have hscan := (Document.parse_eq_ok_iff.1 r.parse_source).2.2.1
  rw [r.nodes_eq, Node.tokensOf_append, Node.tokensOf_cons] at hscan
  exact ⟨_, (Token.isScan_append.1 (Token.isScan_append.1 hscan).2.1).2.1⟩

theorem isScan_fragment (r : Wrapping source line t out) :
    Token.IsScan 0 (Node.tokensOf r.fragment.nodes) :=
  (Document.parse_eq_ok_iff.1 r.parse_wrapped).2.2.1

theorem isScan_result (r : Wrapping source line t out) :
    Token.IsScan 0 (Node.tokensOf r.result.nodes) :=
  (Document.parse_eq_ok_iff.1 r.parse_out).2.2.1

theorem textOf_fragment (r : Wrapping source line t out) :
    Node.textOf r.fragment.nodes = r.wrapped :=
  (Document.parse_eq_ok_iff.1 r.parse_wrapped).2.1

theorem textOf_result (r : Wrapping source line t out) :
    Node.textOf r.result.nodes =
      Node.textOf r.before ++ (Node.textOf r.fragment.nodes ++ Node.textOf r.behind) := by
  rw [r.textOf_fragment]
  exact (Document.parse_eq_ok_iff.1 r.parse_out).2.1.trans r.out_eq

/-- The last token of the wrapped text is the last one before the second seam also when the first
    seam is joined, since there is a form in the text. -/
theorem cleanSeam_join (r : Wrapping source line t out) {ls : List Node}
    (h : Node.IsJoin r.before r.fragment.nodes ls) (us : List Token) :
    Token.cleanSeam (Node.tokensOf ls) us =
      Token.cleanSeam (Node.tokensOf r.fragment.nodes) us := by
  obtain ⟨m, hm⟩ : ∃ m, m ∈ r.fragment.forms :=
    List.exists_mem_of_length_pos (by rw [r.one_form]; exact Nat.one_pos)
  obtain ⟨hmem, htriv⟩ := List.mem_filter.1 hm
  obtain ⟨k, hk⟩ := h.getLast? hmem (r.proper_fragment m hmem) (by simpa using htriv)
  exact Token.cleanSeam_congr hk us

/-! ## Clean seams keep the forms -/

theorem spans_of_clean (r : Wrapping source line t out) (h : r.clean = true) :
    r.result.spans = r.expected := by
  obtain ⟨hfirst, hsecond⟩ := Bool.and_eq_true_iff.1 h
  obtain ⟨o, hbehind⟩ := r.isScan_behind
  obtain ⟨ls, hls⟩ := Node.exists_isJoin r.proper_before r.proper_fragment r.isScan_before
    r.isScan_fragment hfirst
  obtain ⟨ks, hks⟩ := Node.exists_isJoin hls.proper r.proper_behind hls.scan hbehind
    (by rw [r.cleanSeam_join hls, hsecond])
  have htext : Document.text ⟨ks, out⟩ = out := by
    rw [Document.text, hks.text, hls.text, r.textOf_fragment, List.append_assoc]
    exact r.out_eq.symm
  have hparse : Document.parse out = .ok ⟨ks, out⟩ :=
    Document.parse_eq_ok_iff.2 ⟨rfl, htext, hks.scan, hks.proper⟩
  have hresult : r.result = ⟨ks, out⟩ := by
    have := r.parse_out
    rw [hparse] at this
    exact (Except.ok.inj this).symm
  have hlen : ((Node.textOf ls).length : Int) =
      (Node.textOf r.before).length + r.wrapped.length := by
    rw [hls.text, r.textOf_fragment, List.length_append]
    omega
  rw [hresult, Document.spans_eq, hks.spans, hls.spans, r.expected_eq, hlen, List.append_assoc]

theorem form_at_rank (r : Wrapping source line t out) :
    r.document.forms[r.rank]? = some r.form := by
  have hform : r.form.isTrivia = false := r.located.1.2.1
  rw [Document.forms, r.nodes_eq, Node.semantic_append, Node.semantic_cons,
    if_neg (by simp [hform]), rank, List.getElem?_append_right (Nat.le_refl _), Nat.sub_self,
    List.getElem?_cons_zero]

/-- The texts of the forms where they should be: only that of the form has changed. -/
theorem map_snd_expected (r : Wrapping source line t out) {g : Node} (hg : r.fragment.forms = [g]) :
    r.expected.map Prod.snd = (r.document.forms.map Node.text).set r.rank g.text := by
  have hlt : r.rank < (r.document.forms.map Node.text).length := by
    rw [List.length_map]
    exact (List.getElem?_eq_some_iff.1 r.form_at_rank).1
  rw [List.set_eq_take_append_cons_drop, if_pos hlt, expected, List.map_append, List.map_append,
    Node.map_snd_moveSpans, Node.map_snd_moveSpans, Document.map_snd_spans, hg, List.map_take,
    List.map_drop, Document.map_snd_spans]
  rfl

/-! ## Forms that are kept need clean seams -/

/-- A form keeps a comment away from the end of the text before it. -/
theorem not_comment_before (r : Wrapping source line t out) :
    ∀ u ∈ (Node.tokensOf r.before).getLast?, u.kind ≠ .comment := by
  intro u hu
  have hscan := (Document.parse_eq_ok_iff.1 r.parse_source).2.2.1
  rw [r.nodes_eq, Node.tokensOf_append, Node.tokensOf_cons] at hscan
  obtain ⟨hbefore, hrest, hb⟩ := Token.isScan_append.1 hscan
  have hform : r.form.isTrivia = false := r.located.1.2.1
  obtain ⟨v, vs, htok, htriv⟩ := (r.proper r.form (by simp [r.nodes_eq])).exists_cons
  have hv : v.Whole := hrest.whole v (by simp [htok])
  have hstands := hb u hu
  rw [htok, List.cons_append, Token.textOf_cons] at hstands
  exact (hbefore.whole u (List.mem_of_getLast? hu)).not_comment_of_standsBefore hv
    (htriv.trans hform) (Token.standsBefore_of_append hstands)

theorem clean_of_texts (r : Wrapping source line t out) {g : Node} (hg : r.fragment.forms = [g])
    (h : r.result.forms.map Node.text = (r.document.forms.map Node.text).set r.rank g.text) :
    r.clean = true := by
  obtain ⟨o, hbehind⟩ := r.isScan_behind
  have hparts : r.expected.map Prod.snd =
      (Node.semantic (r.before ++ (r.fragment.nodes ++ r.behind))).map Node.text := by
    rw [r.expected_eq]
    simp [Node.map_snd_spans]
  have hscans : ∀ n ∈ r.before ++ (r.fragment.nodes ++ r.behind), ∃ o, Token.IsScan o n.tokens := by
    intro n hn
    rcases List.mem_append.1 hn with hn | hn
    · exact Node.exists_isScan r.isScan_before n hn
    rcases List.mem_append.1 hn with hn | hn
    · exact Node.exists_isScan r.isScan_fragment n hn
    · exact Node.exists_isScan hbehind n hn
  have hwords : Token.wordsOf (Node.tokensOf r.result.nodes) =
      Token.wordsOf (Node.tokensOf (r.before ++ (r.fragment.nodes ++ r.behind))) := by
    rw [Node.wordsOf_tokensOf (Node.exists_isScan r.isScan_result), Node.wordsOf_tokensOf hscans,
      ← hparts, r.map_snd_expected hg, ← h, Document.forms]
  rw [Node.tokensOf_append, Node.tokensOf_append, Token.wordsOf_append, Token.wordsOf_append]
    at hwords
  have hne : Node.semantic r.fragment.nodes ≠ [] := by
    rw [← Document.forms, hg]
    exact List.cons_ne_nil _ _
  rw [clean, Bool.and_eq_true]
  exact Token.cleanSeams_of_wordsOf r.isScan_before r.isScan_fragment hbehind r.isScan_result
    r.not_comment_before (Node.wordsOf_ne_nil r.proper_fragment hne)
    (fun f us hf hk => Node.isTrivia_behind_atom r.proper_fragment hg hf hk) r.textOf_result hwords

end Wrapping

/-- A wrap that succeeds leaves as many forms as there were. They have the texts they should have,
    a new one only for the form that was wrapped, exactly when the wrapped text meets what is around
    it at clean seams. Then they are also where they should be. -/
theorem wrapSource_keeps_forms_iff {source out : List Char} {line : Int} {t : Template}
    (h : wrapSource source line t = .ok out) :
    ∃ (r : Wrapping source line t out) (g : Node),
      r.document.forms[r.rank]? = some r.form ∧ r.fragment.forms = [g] ∧
      r.result.forms.length = r.document.forms.length ∧
      (r.clean = true ↔
        r.result.forms.map Node.text = (r.document.forms.map Node.text).set r.rank g.text) ∧
      (r.clean = true → r.result.spans = r.expected) := by
  obtain ⟨r⟩ := wrapSource_eq_ok_iff.1 h
  obtain ⟨g, hg⟩ := List.length_eq_one_iff.1 r.one_form
  refine ⟨r, g, r.form_at_rank, hg, r.count, ⟨fun hclean => ?_, r.clean_of_texts hg⟩,
    r.spans_of_clean⟩
  rw [← Document.map_snd_spans, r.spans_of_clean hclean, r.map_snd_expected hg]

/-- A list around a form meets blanks at clean seams. -/
theorem wrapSource_keeps_forms_around_list :
    ∃ (r : Wrapping "a b ;c\n(d)".toList 1 ⟨"(do %s)".toList, "%s".toList⟩
      "(do a) b ;c\n(d)".toList) (g : Node),
      r.document.forms[r.rank]? = some r.form ∧ r.fragment.forms = [g] ∧
      r.result.forms.length = r.document.forms.length ∧
      (r.clean = true ↔
        r.result.forms.map Node.text = (r.document.forms.map Node.text).set r.rank g.text) ∧
      (r.clean = true → r.result.spans = r.expected) :=
  wrapSource_keeps_forms_iff (eq_ok_of_toOption (by decide +kernel))

/-- A quote that is put before a list behind a symbol becomes part of the symbol. -/
theorem wrapSource_changes_neighbour :
    wrapSource "b(a\n)".toList 2 ⟨"'%s".toList, "%s".toList⟩ = .ok "b'(a\n)".toList ∧
    (Document.formsOf? "b(a\n)".toList).map (·.map Node.text) =
      some ["b".toList, "(a\n)".toList] ∧
    (Document.formsOf? "b'(a\n)".toList).map (·.map Node.text) =
      some ["b'".toList, "(a\n)".toList] :=
  ⟨eq_ok_of_toOption (by decide +kernel), by decide +kernel, by decide +kernel⟩

end FormEdit
