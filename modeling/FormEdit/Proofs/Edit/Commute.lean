import FormEdit.Proofs.Edit.Enclose

set_option autoImplicit false

/-! # Wraps at different forms

Which form is found at a line depends on where the forms are and how many lines they have. A template
without line feeds leaves the number of lines of a form as it is. So a wrap with it changes nothing
for a wrap of another form, and the order of the two does not matter (`wrapSource_comm`). -/

namespace FormEdit

/-! ## Lines and trivia -/

namespace Node

/-- What the search for a line knows of a node: whether it is a form and how many line feeds are in
    it. -/
def profile (n : Node) : Bool × Nat := (n.isTrivia, n.text.count '\n')

theorem textOf_eq_flatten (ns : List Node) : textOf ns = (ns.map text).flatten := by
  induction ns with
  | nil => rfl
  | cons n ns ih => rw [textOf_cons, ih, List.map_cons, List.flatten_cons]

theorem count_textOf_congr {ns ms : List Node} (h : ns.map profile = ms.map profile) :
    (textOf ns).count '\n' = (textOf ms).count '\n' := by
  induction ns generalizing ms with
  | nil => rw [List.map_eq_nil_iff.1 h.symm]
  | cons n ns ih =>
    cases ms with
    | nil => cases h
    | cons m ms =>
      rw [List.map_cons, List.map_cons, List.cons.injEq] at h
      obtain ⟨hnode, hrest⟩ := h
      obtain ⟨-, hcount⟩ := Prod.mk.inj hnode
      rw [textOf_cons, textOf_cons, List.count_append, List.count_append, hcount, ih hrest]

@[simp] theorem text_laid (o : Int) (n : Node) : (n.laid o).text = n.text := by
  rw [text, tokens_laid, Token.textOf_laid, text]

theorem map_text_laidAll (o : Int) (ns : List Node) :
    (laidAll o ns).map text = ns.map text := by
  induction ns generalizing o with
  | nil => rfl
  | cons n ns ih => rw [laidAll, List.map_cons, List.map_cons, ih, text_laid]

theorem map_profile_laidAll (o : Int) (ns : List Node) :
    (laidAll o ns).map profile = ns.map profile := by
  induction ns generalizing o with
  | nil => rfl
  | cons n ns ih => rw [laidAll, List.map_cons, List.map_cons, ih, profile, isTrivia_laid, text_laid,
      profile]

end Node

namespace Document

variable {d e : Document} {line : Int} {i : Nat} {n m : Node}

theorem startLine_congr (h : d.nodes.map Node.profile = e.nodes.map Node.profile) (i : Nat) :
    d.startLine i = e.startLine i := by
  have htake : (d.nodes.take i).map Node.profile = (e.nodes.take i).map Node.profile := by
    rw [List.map_take, List.map_take, h]
  rw [startLine, startLine, Node.count_textOf_congr htake]

theorem Spans.congr (h : d.nodes.map Node.profile = e.nodes.map Node.profile)
    (hspan : d.Spans line i n) : ∃ m, e.Spans line i m := by
  obtain ⟨hi, hn, hstart, hend⟩ := hspan
  have hm : (e.nodes[i]?).map Node.profile = some n.profile := by
    rw [← List.getElem?_map, ← h, List.getElem?_map, hi, Option.map_some]
  obtain ⟨m, hm, hprofile⟩ := Option.map_eq_some_iff.1 hm
  obtain ⟨htriv, hcount⟩ := Prod.mk.inj hprofile
  rw [startLine_congr h] at hstart hend
  rw [← hcount] at hend
  exact ⟨m, hm, htriv.trans hn, hstart, hend⟩

/-- Documents with forms of the same lines in the same places have the first form at a line in the
    same place. -/
theorem IsFormAt.congr (hat : d.IsFormAt line i n)
    (h : d.nodes.map Node.profile = e.nodes.map Node.profile) (hm : e.nodes[i]? = some m) :
    e.IsFormAt line i m := by
  obtain ⟨hspan, hfirst⟩ := hat
  obtain ⟨m', hm'⟩ := hspan.congr h
  cases hm.symm.trans hm'.1
  refine ⟨hm', fun j k hk => ?_⟩
  obtain ⟨k', hk'⟩ := hk.congr h.symm
  exact hfirst j k' hk'

end Document

/-- A form in a template without line feeds has as many of them as by itself. -/
theorem Template.count_render {t : Template} {form w : List Char} (hv : t.isValid = true)
    (hn : '\n' ∉ t.text) (h : t.render form = some w) : w.count '\n' = form.count '\n' := by
  obtain ⟨head, tail, ⟨htext, -⟩, rfl⟩ := render_eq_some hv h
  rw [htext] at hn
  have hhead : head.count '\n' = 0 := List.count_eq_zero.2 fun hmem => hn (by simp [hmem])
  have htail : tail.count '\n' = 0 := List.count_eq_zero.2 fun hmem => hn (by simp [hmem])
  rw [List.count_append, List.count_append, hhead, htail, Nat.zero_add, Nat.add_zero]

/-! ## Two wraps -/

section

variable {source w₁ w₂ a b : List Char} {l₁ l₂ : Int} {t₁ t₂ : Template} {d : Document}
  {i₁ i₂ : Nat} {n₁ n₂ : Node} {o₁ c₁ o₂ c₂ : Token} {cs₁ cs₂ : List Node}

/-- A wrap with one list and no new lines leaves the search for the other forms as it is. -/
theorem profile_of_wrapSource_list (hat : d.IsFormAt l₁ i₁ n₁) (hn : '\n' ∉ t₁.text)
    (hr : t₁.render n₁.text = some w₁)
    (hw : Document.parse w₁ = .ok ⟨[.delimited .list o₁ cs₁ c₁], w₁⟩)
    (h : wrapSource source l₁ t₁ = .ok a) :
    (d.nodes.set i₁ (.delimited .list o₁ cs₁ c₁)).map Node.profile = d.nodes.map Node.profile := by
  obtain ⟨r⟩ := wrapSource_eq_ok_iff.1 h
  obtain ⟨hi, htriv, -⟩ := hat.1
  obtain ⟨-, -, htext, -⟩ := Document.list_of_parse hw
  have hprofile : (Node.delimited .list o₁ cs₁ c₁).profile = n₁.profile := by
    rw [Node.profile, Node.profile, htext, htriv, Template.count_render r.valid hn hr]
    rfl
  rw [Node.set_eq_take_cons_drop hi]
  conv_rhs => rw [Node.eq_take_cons_drop hi]
  rw [List.map_append, List.map_append, List.map_cons, List.map_cons, hprofile]

/-- Two wraps at different forms exchange the texts of these two. -/
theorem wrapSource_twice (hd : Document.parse source = .ok d) (hat₁ : d.IsFormAt l₁ i₁ n₁)
    (hat₂ : d.IsFormAt l₂ i₂ n₂) (hne : i₁ ≠ i₂) (hn₁ : '\n' ∉ t₁.text)
    (hr₁ : t₁.render n₁.text = some w₁)
    (hw₁ : Document.parse w₁ = .ok ⟨[.delimited .list o₁ cs₁ c₁], w₁⟩)
    (hr₂ : t₂.render n₂.text = some w₂)
    (hw₂ : Document.parse w₂ = .ok ⟨[.delimited .list o₂ cs₂ c₂], w₂⟩)
    (h₁ : wrapSource source l₁ t₁ = .ok a) (h₂ : wrapSource a l₂ t₂ = .ok b) :
    b = (((d.nodes.map Node.text).set i₁ w₁).set i₂ w₂).flatten := by
  have ha := parse_of_wrapSource_list hd hat₁ hr₁ hw₁ h₁
  have hprofile := profile_of_wrapSource_list hat₁ hn₁ hr₁ hw₁ h₁
  obtain ⟨-, -, htext₁, -⟩ := Document.list_of_parse hw₁
  obtain ⟨-, -, htext₂, -⟩ := Document.list_of_parse hw₂
  -- The other form is where it was, with the text it had.
  obtain ⟨m, hm, hmtext⟩ : ∃ m, (Node.laidAll 0 (d.nodes.set i₁ (.delimited .list o₁ cs₁ c₁)))[i₂]? =
      some m ∧ m.text = n₂.text := by
    have hget : ((Node.laidAll 0 (d.nodes.set i₁ (.delimited .list o₁ cs₁ c₁)))[i₂]?).map
        Node.text = some n₂.text := by
      rw [← List.getElem?_map, Node.map_text_laidAll, List.getElem?_map,
        List.getElem?_set_ne hne, hat₂.1.1, Option.map_some]
    exact Option.map_eq_some_iff.1 hget
  have hat : Document.IsFormAt ⟨Node.laidAll 0 (d.nodes.set i₁ (.delimited .list o₁ cs₁ c₁)), a⟩
      l₂ i₂ m := by
    refine hat₂.congr ?_ hm
    rw [Node.map_profile_laidAll, hprofile]
  have hb := parse_of_wrapSource_list ha hat (by rw [hmtext, hr₂]) hw₂ h₂
  calc b = Node.textOf (Node.laidAll 0 ((Node.laidAll 0 (d.nodes.set i₁
          (.delimited .list o₁ cs₁ c₁))).set i₂ (.delimited .list o₂ cs₂ c₂))) :=
        (Document.parse_eq_ok_iff.1 hb).2.1.symm
    _ = _ := by
      rw [Node.textOf_laidAll, Node.textOf_eq_flatten, List.map_set, Node.map_text_laidAll,
        List.map_set, htext₁, htext₂]

/-- Two wraps of different forms, each with one list and with a template without line feeds, give the
    same text in either order. -/
theorem wrapSource_comm {f₁ f₂ : LocatedForm} {ab ba : List Char}
    (hf₁ : locate source l₁ = some f₁) (hf₂ : locate source l₂ = some f₂)
    (hne : f₁.index ≠ f₂.index) (hn₁ : '\n' ∉ t₁.text) (hn₂ : '\n' ∉ t₂.text)
    (hr₁ : t₁.render f₁.text = some w₁)
    (hw₁ : Document.parse w₁ = .ok ⟨[.delimited .list o₁ cs₁ c₁], w₁⟩)
    (hr₂ : t₂.render f₂.text = some w₂)
    (hw₂ : Document.parse w₂ = .ok ⟨[.delimited .list o₂ cs₂ c₂], w₂⟩)
    (ha : wrapSource source l₁ t₁ = .ok a) (hab : wrapSource a l₂ t₂ = .ok ab)
    (hb : wrapSource source l₂ t₂ = .ok b) (hba : wrapSource b l₁ t₁ = .ok ba) : ab = ba := by
  obtain ⟨d, i₁, n₁, -, hd, hat₁, rfl⟩ := exists_placed_of_locate hf₁
  obtain ⟨d', i₂, n₂, -, hd', hat₂, rfl⟩ := exists_placed_of_locate hf₂
  cases hd.symm.trans hd'
  have hne : i₁ ≠ i₂ := hne
  calc ab = (((d.nodes.map Node.text).set i₁ w₁).set i₂ w₂).flatten :=
        wrapSource_twice hd hat₁ hat₂ hne hn₁ hr₁ hw₁ hr₂ hw₂ ha hab
    _ = (((d.nodes.map Node.text).set i₂ w₂).set i₁ w₁).flatten := by
      rw [List.set_comm _ _ hne]
    _ = ba := (wrapSource_twice hd hat₂ hat₁ hne.symm hn₂ hr₂ hw₂ hr₁ hw₁ hb hba).symm

/-- A list over two lines and a vector that starts on the second of them, with a symbol between. -/
theorem wrapSource_comm_around_symbol :
    ∃ a b ab ba, wrapSource "(a\n) b [c\n]".toList 1 ⟨"(do %s)".toList, "%s".toList⟩ = .ok a ∧
      wrapSource a 3 ⟨"(q @ %s)".toList, "@".toList⟩ = .ok ab ∧
      wrapSource "(a\n) b [c\n]".toList 3 ⟨"(q @ %s)".toList, "@".toList⟩ = .ok b ∧
      wrapSource b 1 ⟨"(do %s)".toList, "%s".toList⟩ = .ok ba ∧ a ≠ b ∧ ab = ba := by
  let f₁ : LocatedForm := ⟨0, .delimited .list ⟨.opener, ['('], 0⟩
    [.leaf ⟨.atom, ['a'], 1⟩, .leaf ⟨.newline, ['\n'], 2⟩] ⟨.closer, [')'], 3⟩, ⟨0, 1, 1⟩, 2⟩
  let f₂ : LocatedForm := ⟨4, .delimited .vector ⟨.opener, ['['], 7⟩
    [.leaf ⟨.atom, ['c'], 8⟩, .leaf ⟨.newline, ['\n'], 9⟩] ⟨.closer, [']'], 10⟩, ⟨7, 2, 5⟩, 3⟩
  have hf₁ : locate "(a\n) b [c\n]".toList 1 = some f₁ := by cbv
  have hf₂ : locate "(a\n) b [c\n]".toList 3 = some f₂ := by cbv
  have hr₁ : Template.render ⟨"(do %s)".toList, "%s".toList⟩ f₁.text =
      some "(do (a\n))".toList := by cbv
  have hr₂ : Template.render ⟨"(q @ %s)".toList, "@".toList⟩ f₂.text =
      some "(q [c\n] %s)".toList := by cbv
  have hw₁ : Document.parse "(do (a\n))".toList = .ok ⟨[.delimited .list ⟨.opener, ['('], 0⟩
      [.leaf ⟨.atom, ['d', 'o'], 1⟩, .leaf ⟨.whitespace, [' '], 3⟩,
        .delimited .list ⟨.opener, ['('], 4⟩ [.leaf ⟨.atom, ['a'], 5⟩,
          .leaf ⟨.newline, ['\n'], 6⟩] ⟨.closer, [')'], 7⟩] ⟨.closer, [')'], 8⟩],
      "(do (a\n))".toList⟩ := by cbv
  have hw₂ : Document.parse "(q [c\n] %s)".toList = .ok ⟨[.delimited .list ⟨.opener, ['('], 0⟩
      [.leaf ⟨.atom, ['q'], 1⟩, .leaf ⟨.whitespace, [' '], 2⟩,
        .delimited .vector ⟨.opener, ['['], 3⟩ [.leaf ⟨.atom, ['c'], 4⟩,
          .leaf ⟨.newline, ['\n'], 5⟩] ⟨.closer, [']'], 6⟩, .leaf ⟨.whitespace, [' '], 7⟩,
        .leaf ⟨.atom, ['%', 's'], 8⟩] ⟨.closer, [')'], 10⟩], "(q [c\n] %s)".toList⟩ := by cbv
  have ha : wrapSource "(a\n) b [c\n]".toList 1 ⟨"(do %s)".toList, "%s".toList⟩ =
      .ok "(do (a\n)) b [c\n]".toList :=
    eq_ok_of_toOption (by decide +kernel)
  have hab : wrapSource "(do (a\n)) b [c\n]".toList 3 ⟨"(q @ %s)".toList, "@".toList⟩ =
      .ok "(do (a\n)) b (q [c\n] %s)".toList :=
    eq_ok_of_toOption (by decide +kernel)
  have hb : wrapSource "(a\n) b [c\n]".toList 3 ⟨"(q @ %s)".toList, "@".toList⟩ =
      .ok "(a\n) b (q [c\n] %s)".toList :=
    eq_ok_of_toOption (by decide +kernel)
  have hba : wrapSource "(a\n) b (q [c\n] %s)".toList 1 ⟨"(do %s)".toList, "%s".toList⟩ =
      .ok "(do (a\n)) b (q [c\n] %s)".toList :=
    eq_ok_of_toOption (by decide +kernel)
  exact ⟨_, _, _, _, ha, hab, hb, hba, by decide, wrapSource_comm hf₁ hf₂ (by decide) (by decide)
    (by decide) hr₁ hw₁ hr₂ hw₂ ha hab hb hba⟩

end

end FormEdit
