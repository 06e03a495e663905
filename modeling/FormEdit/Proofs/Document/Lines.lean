import FormEdit.Proofs.Document.Join
import FormEdit.Proofs.Token.Lines

set_option autoImplicit false

/-! # Sources on lines of their own

What a builder has completed at the top stays there, whatever comes behind it. So the nodes of a
source are the first nodes of every longer source whose tokens go on from its own, which is so
behind a line feed (`Document.isBalanced_line`). -/

namespace FormEdit

namespace Builder

/-! ## What is complete stays -/

theorem top_suffix_attach (n : Node) (fs : List Frame) (top : List Node) :
    top <:+ (attach n fs top).top := by
  induction fs generalizing n with
  | nil => exact List.suffix_cons n top
  | cons f fs ih =>
    match f with
    | .bracket o cs => exact List.suffix_refl top
    | .mark m (more + 1) cs => exact List.suffix_refl top
    | .mark m 0 cs =>
      rw [attach]
      exact ih _

theorem top_suffix_put (n : Node) (b : Builder) : b.top <:+ (b.put n).top := by
  unfold put
  split
  · match b with
    | ⟨[], top⟩ => exact List.suffix_cons n top
    | ⟨.bracket o cs :: fs, top⟩ => exact List.suffix_refl top
    | ⟨.mark m more cs :: fs, top⟩ => exact List.suffix_refl top
  · exact top_suffix_attach n b.frames b.top

theorem top_suffix_push {t : Token} {line column : Int} {b b' : Builder}
    (h : b.push t line column = .ok b') : b.top <:+ b'.top := by
  rcases push_cases h with ⟨-, rfl⟩ | ⟨-, rfl⟩ | ⟨-, rfl⟩ | ⟨-, o, cs, fs, top, br, rfl, -, -, rfl⟩
  · exact top_suffix_put _ b
  · exact List.suffix_refl _
  · exact List.suffix_refl _
  · exact top_suffix_attach _ fs top

/-- Taking in more tokens only adds to what is at the top. -/
theorem top_suffix_run {ts : List Token} {b b' : Builder} {p p' : Position}
    (h : b.run p ts = .ok (b', p')) : b.top <:+ b'.top := by
  induction ts generalizing b p with
  | nil =>
    cases h
    exact List.suffix_refl _
  | cons t ts ih =>
    rw [run] at h
    split at h
    · cases h
    · next b₁ hpush => exact (top_suffix_push hpush).trans (ih h)

end Builder

/-- Nodes whose tokens are the first tokens of other nodes are the first of these. -/
theorem Node.exists_eq_append {ns ms : List Node} {vs : List Token} (hns : ∀ n ∈ ns, n.Proper)
    (hms : ∀ m ∈ ms, m.Proper) (h : tokensOf ns = tokensOf ms ++ vs) :
    ∃ ks, ns = ms ++ ks ∧ tokensOf ks = vs := by
  have hrun := Builder.run_nodes hns
  rw [h, Builder.run_append (Builder.run_nodes hms)] at hrun
  obtain ⟨ks, hks⟩ := List.reverse_suffix.1 (Builder.top_suffix_run hrun)
  refine ⟨ks, hks.symm, ?_⟩
  rw [← hks, tokensOf_append] at h
  exact List.append_cancel_left h

namespace Document

variable {a b : List Char} {da db d : Document}

theorem textOf_tokensOf (h : parse a = .ok da) : Token.textOf (Node.tokensOf da.nodes) = a :=
  (parse_eq_ok_iff.1 h).2.1

/-! ## Two sources with a line feed between them -/

/-- The document of a source and the lines behind it has the nodes of both, those of the second
    moved behind the line feed. -/
theorem parse_line (ha : parse a = .ok da) (hb : parse b = .ok db) :
    parse (a ++ '\n' :: b) = .ok ⟨da.nodes ++ .leaf (Token.lineFeed a.length) ::
      db.nodes.map (Node.shift (a.length + 1)), a ++ '\n' :: b⟩ := by
  obtain ⟨-, htexta, hscana, hpropera⟩ := parse_eq_ok_iff.1 ha
  obtain ⟨-, htextb, hscanb, hproperb⟩ := parse_eq_ok_iff.1 hb
  have hscan := hscana.append_lineFeed hscanb (k := a.length) (by rw [textOf_tokensOf ha]; omega)
  refine parse_eq_ok_iff.2 ⟨rfl, ?_, ?_, ?_⟩
  · rw [text] at htexta htextb ⊢
    simp [htexta, htextb, Node.text, Token.lineFeed]
  · rw [Int.sub_zero, ← Node.tokensOf_map_shift] at hscan
    simpa using hscan
  · intro n hn
    rcases List.mem_append.1 hn with hn | hn
    · exact hpropera n hn
    rcases List.mem_cons.1 hn with rfl | hn
    · exact .leaf rfl
    · exact Node.proper_map_shift hproperb _ n hn

/-- What stands on the lines behind a well-formed source is well formed if the whole is. -/
theorem exists_parse_of_line (ha : parse a = .ok da) (h : parse (a ++ '\n' :: b) = .ok d) :
    ∃ db, parse b = .ok db := by
  obtain ⟨-, -, hscana, hpropera⟩ := parse_eq_ok_iff.1 ha
  obtain ⟨-, -, hscan, hproper⟩ := parse_eq_ok_iff.1 h
  obtain ⟨vs, hvs, htext, hscanb⟩ := hscana.exists_lineFeed hscan (k := a.length)
    (by rw [textOf_tokensOf ha, textOf_tokensOf h]) (by rw [textOf_tokensOf ha]; omega)
  obtain ⟨ks, hks, htok⟩ := Node.exists_eq_append hproper hpropera hvs
  have hline : ∀ t ∈ [Token.lineFeed a.length], t.isTrivia = true := by
    intro t ht
    rw [List.mem_singleton.1 ht]
    rfl
  have hkproper : ∀ k ∈ ks, k.Proper := fun k hk => hproper k (by simp [hks, hk])
  rw [← List.singleton_append] at htok
  obtain ⟨ms, rfl, hms⟩ := Node.split_of_trivia hkproper htok hline
  have hmscan := hscanb.moved
  rw [← hms, ← Node.tokensOf_map_shift] at hmscan
  refine ⟨⟨ms.map (Node.shift (-(a.length + 1))), b⟩, parse_eq_ok_iff.2 ⟨rfl, ?_, hmscan, ?_⟩⟩
  · rw [text, Node.textOf_map_shift, Node.textOf, hms, htext]
  · exact Node.proper_map_shift (fun m hm => hkproper m (by simp [hm])) _

/-- A source is well formed on the lines behind a well-formed one only if it is by itself. -/
theorem exists_error_line (ha : parse a = .ok da) {e : BuildError} (hb : parse b = .error e) :
    ∃ e', parse (a ++ '\n' :: b) = .error e' := by
  cases h : parse (a ++ '\n' :: b) with
  | error e' => exact ⟨e', rfl⟩
  | ok d =>
    obtain ⟨db, hdb⟩ := exists_parse_of_line ha h
    rw [hb] at hdb
    cases hdb

theorem isBalanced_line (ha : parse a = .ok da) (b : List Char) :
    isBalanced (a ++ '\n' :: b) = isBalanced b := by
  rw [isBalanced, isBalanced]
  cases hb : parse b with
  | ok db =>
    rw [parse_line ha hb]
    rfl
  | error e =>
    obtain ⟨e', he⟩ := exists_error_line ha hb
    rw [he]
    rfl

/-- The numbers of the forms of two sources add up. -/
theorem countForms_line (ha : parse a = .ok da) (b : List Char) :
    countForms (a ++ '\n' :: b) = (countForms b).bind fun k => (countForms a).map (· + k) := by
  simp only [countForms, formsOf?, ha]
  cases hb : parse b with
  | ok db =>
    rw [parse_line ha hb]
    simp [Except.toOption, forms, Node.semantic_map_shift, Node.semantic_cons, Node.isTrivia,
      Token.isTrivia, Token.lineFeed, TokenKind.isTrivia]
  | error e =>
    obtain ⟨e', he⟩ := exists_error_line ha hb
    rw [he]
    rfl

/-- A well-formed source in parentheses, the closing one on a line of its own, is one list of what
    the source is by itself. -/
theorem parse_enclosed (ha : parse a = .ok da) :
    parse ('(' :: (a ++ ['\n', ')'])) = .ok ⟨[.delimited .list ⟨.opener, ['('], 0⟩
      (da.nodes.map (Node.shift 1) ++ [.leaf (Token.lineFeed (a.length + 1))])
      ⟨.closer, [')'], a.length + 2⟩], '(' :: (a ++ ['\n', ')'])⟩ := by
  obtain ⟨-, -, hscan, hproper⟩ := parse_eq_ok_iff.1 ha
  have hclose : Token.IsScan 0 [⟨.closer, [')'], 0⟩] :=
    ⟨rfl, ⟨')', [], rfl, rfl⟩, Token.standsBefore_nil _, trivial⟩
  have hinside := (hscan.append_lineFeed hclose (k := a.length)
    (by rw [textOf_tokensOf ha]; omega)).shift 1
  have hopen : (⟨.opener, ['('], 0⟩ : Token).Whole := ⟨'(', [], rfl, rfl⟩
  have hcloser : (0 : Int) + (a.length + 1 - 0) + 1 = a.length + 2 := by omega
  refine parse_eq_ok_iff.2 ⟨rfl, ?_, ?_, ?_⟩
  · rw [text, Node.textOf_cons, Node.textOf_nil, List.append_nil, Node.text, Node.tokens_delimited]
    simp [Node.tokensOf_map_shift, Token.lineFeed, textOf_tokensOf ha]
  · rw [Node.tokensOf_cons, Node.tokensOf_nil, List.append_nil, Node.tokens_delimited]
    refine ⟨rfl, hopen, fun x _ => rfl, ?_⟩
    rw [List.map_append, ← Node.tokensOf_map_shift] at hinside
    simpa [Token.shift, Token.lineFeed, hcloser, Int.add_assoc] using hinside
  · intro n hn
    rw [List.mem_singleton.1 hn]
    refine .delimited rfl rfl rfl rfl ?_
    intro m hm
    rcases List.mem_append.1 hm with hm | hm
    · exact Node.proper_map_shift hproper _ m hm
    · rw [List.mem_singleton.1 hm]
      exact .leaf rfl

end Document

end FormEdit
