import FormEdit.Edit.Wrap
import FormEdit.Proofs.Document.Place
import FormEdit.Proofs.Edit.Locate
import FormEdit.Proofs.Text.Occurrence

set_option autoImplicit false

/-! # Wrapping exchanges one piece of text

A source is read into a tree, the tree is edited and its tokens are written out again, and all that
comes of it is that the text of one form gives way to the template around it
(`wrapSourceValue_exchanges`). The success of each step is first said as an equivalence, which names
what the step found. -/

namespace FormEdit

/-! ## What a success has found -/

theorem eq_ok_of_toOption {ε α : Type} {x : Except ε α} {a : α} (h : x.toOption = some a) :
    x = .ok a := by
  cases x with
  | error e => cases h
  | ok b =>
    cases h
    rfl

/-- A form goes where the placeholder first stands. -/
theorem Template.render_eq_some {t : Template} {form w : List Char} (hv : t.isValid = true)
    (h : t.render form = some w) :
    ∃ head tail, IsFirstCut t.placeholder t.text head tail ∧ w = head ++ (form ++ tail) := by
  rw [render] at h
  split at h
  · cases h
  · next hp =>
    have hne : t.placeholder ≠ [] := by simpa using hp
    have hcount : occurrences t.placeholder t.text = 1 := by
      simpa [isValid, markerCount] using hv
    split at h
    · next head tail hcut =>
      cases h
      exact ⟨head, tail, isFirstCut_of_cutAt hcut, rfl⟩
    · next hcut => exact absurd hcut (cutAt_ne_none hne hcount)

theorem wrapForm_eq_ok_iff {form w : List Char} {t : Template} :
    wrapForm form t = .ok w ↔
      t.isValid = true ∧ t.render form = some w ∧ ∃ d, Document.parse w = .ok d := by
  rw [wrapForm]
  split
  · next hv =>
    have hv : t.isValid = false := by simpa using hv
    simp [hv]
  · next hv =>
    have hv : t.isValid = true := by simpa using hv
    split
    · next hr => simp [hr]
    · next w' hr =>
      split
      · next e he =>
        simp only [reduceCtorEq, hr, Option.some.injEq, false_iff, not_and]
        rintro - rfl ⟨d, hd⟩
        rw [he] at hd
        cases hd
      · next d hd =>
        have htext : d.text = w' := (Document.parse_eq_ok_iff.1 hd).2.1
        simp only [Except.ok.injEq, hr, Option.some.injEq, htext, hv, true_and]
        constructor
        · rintro rfl
          exact ⟨rfl, d, hd⟩
        · exact fun h => h.1

namespace Document

/-- The text of a document with top-level nodes in the place of one of its own. -/
theorem text_splice (d : Document) (i : Nat) (ns : List Node) :
    (d.splice i [] ns).text =
      Node.textOf (d.nodes.take i) ++ (Node.textOf ns ++ Node.textOf (d.nodes.drop (i + 1))) := by
  simp [splice, exchange, childrenAt, text]

/-- The source of a document around one of its top-level nodes. -/
theorem source_eq {source : List Char} {d : Document} (h : parse source = .ok d) {i : Nat}
    {n : Node} (hn : d.nodes[i]? = some n) :
    source =
      Node.textOf (d.nodes.take i) ++ (n.text ++ Node.textOf (d.nodes.drop (i + 1))) := by
  calc source = Node.textOf d.nodes := (parse_eq_ok_iff.1 h).2.1.symm
    _ = Node.textOf (d.nodes.take i ++ n :: d.nodes.drop (i + 1)) := by
      rw [← Node.eq_take_cons_drop hn]
    _ = _ := by rw [Node.textOf_append, Node.textOf_cons]

/-- What stands before a top-level node, in its place and behind it. -/
theorem source_around {source : List Char} {d : Document} (h : parse source = .ok d) {i : Nat}
    {n : Node} (hn : d.nodes[i]? = some n) :
    source.take (Node.textOf (d.nodes.take i)).length = Node.textOf (d.nodes.take i) ∧
    (source.drop (Node.textOf (d.nodes.take i)).length).take n.text.length = n.text ∧
    source.drop ((Node.textOf (d.nodes.take i)).length + n.text.length) =
      Node.textOf (d.nodes.drop (i + 1)) := by
  have hsource := source_eq h hn
  generalize Node.textOf (d.nodes.take i) = before at hsource ⊢
  generalize Node.textOf (d.nodes.drop (i + 1)) = after at hsource ⊢
  rw [hsource, ← List.drop_drop, List.take_left, List.drop_left, List.take_left, List.drop_left]
  exact ⟨rfl, rfl, rfl⟩

/-- Where a form is placed, its text is found in the source. -/
theorem exists_start_placed {source : List Char} {d : Document} (hd : parse source = .ok d) {i : Nat}
    {n : Node} (hi : d.nodes[i]? = some n) :
    ∃ k : Nat, (d.placed i n).start.offset = k ∧
      source.take k = Node.textOf (d.nodes.take i) ∧
      (source.drop k).take n.text.length = n.text ∧
      source.drop (k + n.text.length) = Node.textOf (d.nodes.drop (i + 1)) := by
  refine ⟨(Node.textOf (d.nodes.take i)).length, ?_, source_around hd hi⟩
  rw [placed, Position.advance_offset]
  exact Int.zero_add _

end Document

theorem isBalanced_of_parse {source : List Char} {d : Document}
    (h : Document.parse source = .ok d) : isBalanced source = true := by
  rw [isBalanced, h]
  rfl

theorem countForms_of_parse {source : List Char} {d : Document}
    (h : Document.parse source = .ok d) : countForms source = some d.forms.length := by
  rw [countForms, Document.formsOf?, h]
  rfl

theorem replaceForm_eq_ok_iff {d : Document} {form : LocatedForm} {w out : List Char} :
    replaceForm d form w = .ok out ↔
      ∃ fragment check, Document.parse w = .ok fragment ∧ fragment.forms.length = 1 ∧
        out = Node.textOf (d.nodes.take form.index) ++
          (w ++ Node.textOf (d.nodes.drop (form.index + 1))) ∧
        Document.parse out = .ok check ∧ check.forms.length = d.forms.length := by
  rw [replaceForm]
  split
  · next e he => simp [he]
  · next fragment hf =>
    have htext : Node.textOf fragment.nodes = w := (Document.parse_eq_ok_iff.1 hf).2.1
    rw [Document.text_splice, htext]
    simp only [hf, Except.ok.injEq, exists_and_left, exists_eq_left']
    split
    · next hone => simp [hone]
    · next hone =>
      have hone : fragment.forms.length = 1 := by simpa using hone
      simp only [hone, true_and]
      split
      · next e he =>
        simp only [reduceCtorEq, false_iff]
        rintro ⟨rfl, check, hcheck, -⟩
        rw [he] at hcheck
        cases hcheck
      · next check hcheck =>
        split
        · next hcount =>
          simp only [reduceCtorEq, false_iff]
          rintro ⟨rfl, check', hcheck', hcount'⟩
          rw [hcheck] at hcheck'
          cases hcheck'
          exact hcount hcount'.symm
        · next hcount =>
          have hcount : d.forms.length = check.forms.length := by simpa using hcount
          constructor
          · intro h
            cases h
            exact ⟨rfl, check, hcheck, hcount.symm⟩
          · rintro ⟨rfl, -⟩
            rfl

/-- When a form is found and goes into the template, what is left of a wrap is the exchange. -/
theorem wrapSource_eq_replaceForm {source w : List Char} {line : Int} {t : Template}
    {d e : Document} {i : Nat} {n : Node} (hline : 1 ≤ line)
    (hd : Document.parse source = .ok d) (hat : d.IsFormAt line i n) (hv : t.isValid = true)
    (hr : t.render n.text = some w) (hw : Document.parse w = .ok e) :
    wrapSource source line t = replaceForm d (d.placed i n) w := by
  have hloc : d.locate line = some (d.placed i n) :=
    Document.locate_eq_some_iff.2 ⟨i, n, hat, rfl⟩
  have hwrap : wrapForm (d.placed i n).text t = .ok w := wrapForm_eq_ok_iff.2 ⟨hv, hr, e, hw⟩
  have hpos : ¬line < 1 := by omega
  simp only [wrapSource, if_neg hpos, hd, hloc, hwrap]

/-- What a wrap has read and found when it succeeds: the form is the first at the line, the template
    around its text is well formed with one form in it, and the source with this in the place of the
    form is well formed with as many forms as before. -/
structure Wrapping (source : List Char) (line : Int) (template : Template) (out : List Char) where
  document : Document
  index : Nat
  form : Node
  wrapped : List Char
  fragment : Document
  result : Document
  line_pos : 1 ≤ line
  valid : template.isValid = true
  parse_source : Document.parse source = .ok document
  located : document.IsFormAt line index form
  rendered : template.render form.text = some wrapped
  parse_wrapped : Document.parse wrapped = .ok fragment
  one_form : fragment.forms.length = 1
  out_eq : out = Node.textOf (document.nodes.take index) ++
    (wrapped ++ Node.textOf (document.nodes.drop (index + 1)))
  parse_out : Document.parse out = .ok result
  count : result.forms.length = document.forms.length

theorem wrapSource_eq_ok_iff {source out : List Char} {line : Int} {t : Template} :
    wrapSource source line t = .ok out ↔ Nonempty (Wrapping source line t out) := by
  constructor
  · intro h
    rw [wrapSource] at h
    split at h
    · cases h
    · next hline =>
      split at h
      · cases h
      · next d hd =>
        split at h
        · cases h
        · next f hf =>
          obtain ⟨i, n, hat, rfl⟩ := Document.locate_eq_some_iff.1 hf
          split at h
          · cases h
          · next w hw =>
            obtain ⟨hv, hr, -⟩ := wrapForm_eq_ok_iff.1 hw
            obtain ⟨fragment, check, hfr, hone, hout, hcheck, hcount⟩ := replaceForm_eq_ok_iff.1 h
            exact ⟨⟨d, i, n, w, fragment, check, by omega, hv, hd, hat, hr, hfr, hone, hout, hcheck,
              hcount⟩⟩
  · rintro ⟨d, i, n, w, fragment, check, hline, hv, hd, hat, hr, hfr, hone, hout, hcheck, hcount⟩
    rw [wrapSource_eq_replaceForm hline hd hat hv hr hfr]
    exact replaceForm_eq_ok_iff.2 ⟨fragment, check, hfr, hone, hout, hcheck, hcount⟩

/-! ## Arguments of any kind -/

theorem wrapSourceValue_eq_ok_iff {source line : Value} {arg : TemplateArgument}
    {out : List Char} :
    wrapSourceValue source line arg = .ok out ↔
      ∃ s k t, source = .text s ∧ line = .int k ∧ arg.resolve = .ok t ∧
        wrapSource s.toList k t = .ok out := by
  constructor
  · intro h
    rw [wrapSourceValue.eq_def] at h
    split at h
    · next s =>
      split at h
      · next k =>
        split at h
        · next t ht => exact ⟨s, k, t, rfl, rfl, ht, h⟩
        · -- What is no template is refused on each way.
          split at h
          · cases h
          split at h
          · cases h
          split at h <;> cases h
      · cases h
    · cases h
  · rintro ⟨s, k, t, rfl, rfl, ht, h⟩
    simp only [wrapSourceValue, ht, h]

/-- A wrap that succeeds leaves everything around the form that it found. -/
theorem exists_around_of_wrapSourceValue {s : String} {line : Int} {arg : TemplateArgument}
    {out : List Char} (h : wrapSourceValue (.text s) (.int line) arg = .ok out) :
    ∃ (f : LocatedForm) (k : Nat) (wrapped : List Char), locate s.toList line = some f ∧
      f.start.offset = k ∧ (s.toList.drop k).take f.text.length = f.text ∧
      out = s.toList.take k ++ (wrapped ++ s.toList.drop (k + f.text.length)) := by
  obtain ⟨s', line', t, hs, hline, -, hwrap⟩ := wrapSourceValue_eq_ok_iff.1 h
  cases hs
  cases hline
  obtain ⟨r⟩ := wrapSource_eq_ok_iff.1 hwrap
  obtain ⟨k, hk, hbefore, hform, hbehind⟩ :=
    Document.exists_start_placed r.parse_source r.located.1.1
  have hloc : locate s.toList line = some (r.document.placed r.index r.form) := by
    have hpos : ¬line < 1 := by
      have := r.line_pos
      omega
    simp only [locate, if_neg hpos, r.parse_source]
    exact Document.locate_eq_some_iff.2 ⟨_, _, r.located, rfl⟩
  refine ⟨_, k, r.wrapped, hloc, hk, hform, ?_⟩
  show out = s.toList.take k ++ (r.wrapped ++ s.toList.drop (k + r.form.text.length))
  rw [hbefore, hbehind]
  exact r.out_eq

namespace Wrapping

variable {source out : List Char} {line : Int} {t : Template}

/-- A wrap leaves the source well formed, with as many forms as before. -/
theorem keeps (r : Wrapping source line t out) :
    isBalanced source = true ∧ isBalanced out = true ∧ countForms out = countForms source := by
  refine ⟨isBalanced_of_parse r.parse_source, isBalanced_of_parse r.parse_out, ?_⟩
  rw [countForms_of_parse r.parse_out, countForms_of_parse r.parse_source, r.count]

/-- A wrap takes the text of the form out of the source and puts the two pieces of the template with
    this text between them in its place. -/
theorem exchanges (r : Wrapping source line t out) :
    ∃ head tail o, IsFirstCut t.placeholder t.text head tail ∧
      o = (Node.textOf (r.document.nodes.take r.index)).length ∧
      (source.drop o).take r.form.text.length = r.form.text ∧
      out = source.take o ++ (head ++ (r.form.text ++ tail)) ++
        source.drop (o + r.form.text.length) := by
  obtain ⟨head, tail, hcut, hw⟩ := Template.render_eq_some r.valid r.rendered
  obtain ⟨hbefore, hform, hafter⟩ := Document.source_around r.parse_source r.located.1.1
  refine ⟨head, tail, _, hcut, rfl, hform, ?_⟩
  rw [hbefore, hafter]
  refine r.out_eq.trans ?_
  rw [hw]
  simp only [List.append_assoc]

end Wrapping

/-- No chain of wraps makes a source well formed or keeps it from being so, or changes how many
    forms it has. -/
theorem wrapChain_keeps (s : String) (steps : List (Value × TemplateArgument)) :
    ∃ s' : String, (wrapChain (.text s) steps).2 = .text s' ∧
      isBalanced s'.toList = isBalanced s.toList ∧ countForms s'.toList = countForms s.toList := by
  induction steps generalizing s with
  | nil => exact ⟨s, rfl, rfl, rfl⟩
  | cons step steps ih =>
    obtain ⟨line, arg⟩ := step
    cases h : wrapSourceValue (.text s) line arg with
    | error e =>
      obtain ⟨s', hlast, hkeep⟩ := ih s
      refine ⟨s', ?_, hkeep⟩
      simp only [wrapChain, h, hlast]
    | ok out =>
      -- A source that was wrapped was well formed, so a success changes neither.
      obtain ⟨s₀, k, t, hs, -, -, hwrap⟩ := wrapSourceValue_eq_ok_iff.1 h
      cases hs
      obtain ⟨r⟩ := wrapSource_eq_ok_iff.1 hwrap
      obtain ⟨hsource, hout, hcount⟩ := r.keeps
      obtain ⟨s', hlast, hbal, hforms⟩ := ih (String.ofList out)
      rw [String.toList_ofList] at hbal hforms
      refine ⟨s', ?_, ?_, hforms.trans hcount⟩
      · simp only [wrapChain, h, hlast]
      · rw [hbal, hout, hsource]

/-- What a wrap that succeeds changes is one piece of the source: the text of the first form at the
    line has the two pieces of the template around it. The outcome is well formed and has as many
    forms as the source, and so is what any chain of wraps, each success of which becomes the next
    source, leaves of a source. -/
theorem wrapSourceValue_exchanges :
    (∀ source line arg out, wrapSourceValue source line arg = .ok out →
      ∃ (s : String) (k : Int) (t : Template) (d : Document) (i : Nat) (f : Node)
        (head tail : List Char) (o : Nat),
        source = .text s ∧ line = .int k ∧ 1 ≤ k ∧ arg.resolve = .ok t ∧
        Document.parse s.toList = .ok d ∧ d.IsFormAt k i f ∧
        o = (Node.textOf (d.nodes.take i)).length ∧
        (s.toList.drop o).take f.text.length = f.text ∧
        t.isValid = true ∧ IsFirstCut t.placeholder t.text head tail ∧
        out = s.toList.take o ++ (head ++ (f.text ++ tail)) ++ s.toList.drop (o + f.text.length) ∧
        isBalanced out = true ∧ countForms out = countForms s.toList) ∧
    ∀ (s : String) steps, ∃ s' : String, (wrapChain (.text s) steps).2 = .text s' ∧
      isBalanced s'.toList = isBalanced s.toList ∧ countForms s'.toList = countForms s.toList := by
  refine ⟨fun source line arg out h => ?_, wrapChain_keeps⟩
  obtain ⟨s, k, t, rfl, rfl, ht, hwrap⟩ := wrapSourceValue_eq_ok_iff.1 h
  obtain ⟨r⟩ := wrapSource_eq_ok_iff.1 hwrap
  obtain ⟨head, tail, o, hcut, ho, hform, hout⟩ := r.exchanges
  obtain ⟨-, hbal, hcount⟩ := r.keeps
  exact ⟨s, k, t, r.document, r.index, r.form, head, tail, o, rfl, rfl, r.line_pos, ht,
    r.parse_source, r.located, ho, hform, r.valid, hcut, hout, hbal, hcount⟩

end FormEdit
