import FormEdit.Proofs.Token.Overlap

set_option autoImplicit false

/-! # Runs of tokens whose words stay

When runs of tokens are put together and the text is scanned anew, it has the words of the runs only
if the seams between them are clean (`Token.cleanSeams_of_wordsOf`). A word at a seam would get more
text, or become a comment, and what a comment takes in is missing behind it. -/

namespace FormEdit

namespace Token

/-! ## What is scanned behind a run -/

/-- A text that starts with a run is scanned so, when the run stays as it is before the rest. -/
theorem exists_behind {o o' : Int} {ts es : List Token} {r : List Char} (h : IsScan o ts)
    (hr : ∀ t ∈ ts.getLast?, t.StandsBefore r) (hes : IsScan o' es)
    (htext : textOf es = textOf ts ++ r) :
    ∃ us, wordsOf es = wordsOf ts ++ wordsOf us ∧ textOf us = r ∧ ∃ o, IsScan o us := by
  have hes := hes.shift (o - o')
  have hoff : o' + (o - o') = o := by omega
  rw [hoff] at hes
  obtain ⟨us, hus, hustext, hs⟩ := h.exists_append hr hes (by rw [textOf_map_shift, htext])
  refine ⟨us, ?_, hustext, _, hs⟩
  rw [← wordsOf_map_shift (o - o'), hus, wordsOf_append]

/-- A token at the front of a text may only have more characters when the text is scanned. -/
theorem Whole.exists_more {o : Int} {t : Token} {es : List Token} {r : List Char} (h : t.Whole)
    (hes : IsScan o es) (htext : textOf es = t.text ++ r) :
    ∃ e es' z, es = e :: es' ∧ e.text = t.text ++ z ∧ r = z ++ textOf es' := by
  obtain ⟨c, s, ht, hreach⟩ := h
  cases es with
  | nil => simp [ht] at htext
  | cons e es =>
    obtain ⟨-, hw, hb, -⟩ := hes
    obtain ⟨d, x, he, -⟩ := id hw
    have hreach' := (reach_append_eq_iff he _).2 ⟨hw, hb⟩
    rw [textOf_cons, he, ht, List.cons_append, List.cons_append, List.cons.injEq] at htext
    obtain ⟨rfl, htext⟩ := htext
    rw [htext] at hreach'
    rcases List.append_eq_append_iff.1 htext with ⟨y, rfl, hy⟩ | ⟨z, rfl, hz⟩
    · -- With less characters it would be less when scanned by itself.
      have hless := (settled_reach d).of_append hreach' (by simp)
      rw [hreach, Except.ok.injEq, Prod.mk.injEq, List.length_append] at hless
      obtain rfl := List.eq_nil_of_length_eq_zero (l := y) (by omega)
      exact ⟨e, es, [], rfl, by rw [he, ht]; simp, by simpa using hy.symm⟩
    · exact ⟨e, es, z, rfl, by rw [he, ht, List.cons_append], hz⟩

/-- Where a text starts with a run, its scan comes to the last token of the run, which may have more
    characters then. -/
theorem exists_last {o o' : Int} {ts es : List Token} {t : Token} {r : List Char}
    (h : IsScan o (ts ++ [t])) (hes : IsScan o' es) (htext : textOf es = textOf (ts ++ [t]) ++ r) :
    ∃ e es' z, wordsOf es = wordsOf ts ++ wordsOf (e :: es') ∧ e.text = t.text ++ z ∧
      r = z ++ textOf es' ∧ ∃ o, IsScan o (e :: es') := by
  obtain ⟨hts, ⟨-, hw, -, -⟩, hb⟩ := isScan_append.1 h
  have hb' : ∀ u ∈ ts.getLast?, u.StandsBefore (t.text ++ r) := by
    intro u hu x hx
    refine hb u hu x ?_
    obtain ⟨c, s, ht⟩ := List.exists_cons_of_ne_nil hw.text_ne_nil
    simpa [ht] using hx
  obtain ⟨us, hsplit, hus, o', hscan⟩ := exists_behind hts hb' hes (by rw [htext]; simp)
  obtain ⟨e, es', z, rfl, he, hr⟩ := hw.exists_more hscan hus
  exact ⟨e, es', z, hsplit, he, hr, o', hscan⟩

/-! ## The last token before a seam -/

/-- A token that becomes trivia with more text was trivia of this kind, or the character that opens
    a comment before an exclamation mark. -/
theorem Whole.kind_of_more {t e : Token} {z : List Char} (h : t.Whole) (he : e.Whole)
    (htext : e.text = t.text ++ z) (htriv : e.isTrivia = true) :
    t.kind = e.kind ∨ e.kind = .comment ∧ t.text = ['#'] ∧ z.head? = some '!' := by
  obtain ⟨c, s, ht, hreach⟩ := h
  obtain ⟨d, x, he, hreach'⟩ := he
  have hfits := fits_of_reach hreach'
  rw [he, ht, List.cons_append, List.cons.injEq] at htext
  obtain ⟨rfl, rfl⟩ := htext
  cases hk : e.kind <;>
    simp only [hk, isTrivia, TokenKind.isTrivia, Bool.false_eq_true] at hfits htriv
  case newline =>
    rw [hfits.1, reach_newline, Except.ok.injEq, Prod.mk.injEq] at hreach
    exact .inl hreach.1.symm
  case whitespace =>
    rw [reach_spacing hfits.2.1, Except.ok.injEq, Prod.mk.injEq] at hreach
    exact .inl hreach.1.symm
  case comment =>
    have hcomment : (d = ';' ∨ d = '#' ∧ s.head? = some '!') → t.kind = .comment := by
      intro hc
      rw [reach_comment hc, Except.ok.injEq, Prod.mk.injEq] at hreach
      exact hreach.1.symm
    rcases hfits.1 with hc | ⟨rfl, hhead⟩
    · exact .inl (hcomment (.inl hc))
    · cases s with
      | nil => exact .inr ⟨rfl, ht, hhead⟩
      | cons f s => exact .inl (hcomment (.inr ⟨rfl, hhead⟩))

/-- A comment with more text is a comment. -/
theorem Whole.comment_of_more {t e : Token} {z : List Char} (h : t.Whole) (hk : t.kind = .comment)
    (he : e.Whole) (htext : e.text = t.text ++ z) : e.kind = .comment := by
  obtain ⟨c, s, ht, hreach⟩ := h
  obtain ⟨d, x, he, hreach'⟩ := he
  have hfits := fits_of_reach hreach
  rw [hk] at hfits
  rw [he, ht, List.cons_append, List.cons.injEq] at htext
  obtain ⟨rfl, rfl⟩ := htext
  have hc : d = ';' ∨ d = '#' ∧ (s ++ z).head? = some '!' := by
    rcases hfits.1 with hc | ⟨hc, hhead⟩
    · exact .inl hc
    · exact .inr ⟨hc, by rw [List.head?_append, hhead, Option.some_or]⟩
  rw [reach_comment hc, Except.ok.injEq, Prod.mk.injEq] at hreach'
  exact hreach'.1.symm

/-- How a scan goes on where it comes to the last token of a run: the token takes in only blanks, or
    stays as it is, or goes on as a comment to the end of the line. -/
inductive Ends (t : Token) (r : List Char) (ws : List (List Char)) : Prop
  | blank (kind : t.kind = .whitespace ∨ t.kind = .newline)
  | stays (solid : t.isTrivia = false) (before : t.StandsBefore r)
  | comment {us : List Token} (opens : t.kind = .comment ∨ t.text = ['#'] ∧ r.head? = some '!')
    (scan : ∃ o, IsScan o us) (rest : textOf us = r.dropWhile (· ≠ '\n'))
    (words : wordsOf us = wordsOf [t] ++ ws)

/-- Where the words of a run come first in a scan, its last token ends in one of these ways. -/
theorem ends_of_wordsOf {o o' : Int} {ts es : List Token} {t : Token} {r : List Char}
    {ws : List (List Char)} (h : IsScan o (ts ++ [t])) (hes : IsScan o' es)
    (htext : textOf es = textOf (ts ++ [t]) ++ r)
    (hwords : wordsOf es = wordsOf (ts ++ [t]) ++ ws) : Ends t r ws := by
  by_cases hblank : t.kind = .whitespace ∨ t.kind = .newline
  · exact .blank hblank
  have hw : t.Whole := h.whole t (by simp)
  obtain ⟨e, es', z, hsplit, he, rfl, _, hscan⟩ := exists_last h hes htext
  rw [hsplit, wordsOf_append, List.append_assoc, List.append_cancel_left_eq] at hwords
  obtain ⟨-, hew, heb, hes'⟩ := hscan
  rw [wordsOf_cons] at hwords
  by_cases htriv : e.isTrivia = true
  · rw [if_pos htriv] at hwords
    have hkind : e.kind = .comment ∧ (t.kind = .comment ∨ t.text = ['#'] ∧ z.head? = some '!') := by
      rcases hw.kind_of_more hew he htriv with hk | ⟨hk, ht, hz⟩
      · have hk' : e.kind = .comment := by
          rw [hk] at hblank
          cases hek : e.kind <;> simp_all [isTrivia, TokenKind.isTrivia]
        exact ⟨hk', .inl (hk.trans hk')⟩
      · exact ⟨hk, .inr ⟨ht, hz⟩⟩
    refine .comment ?_ ⟨_, hes'⟩ (hew.rest_of_comment hkind.1 he heb) hwords
    rcases hkind.2 with hk | ⟨ht, hz⟩
    · exact .inl hk
    · exact .inr ⟨ht, by rw [List.head?_append, hz, Option.some_or]⟩
  · have hsolid : t.isTrivia = false := by
      cases hk : t.kind <;> simp_all [isTrivia, TokenKind.isTrivia]
      have := hw.comment_of_more hk hew he
      simp [this] at htriv
    rw [if_neg htriv, wordsOf_cons, if_neg (by simp [hsolid])] at hwords
    have hsame : e.text = t.text := (List.cons.inj hwords).1
    have hz : z = [] := by
      rw [he] at hsame
      simpa using hsame
    refine .stays hsolid ?_
    subst hz
    intro x hx
    have := heb x hx
    rwa [absorbs, hsame] at this

/-! ## Clean seams -/

/-- Runs that meet at a clean seam are one run with the words of both. -/
theorem exists_join {o o' : Int} {ts us : List Token} (h : IsScan o ts) (h' : IsScan o' us)
    (hc : cleanSeam ts us = true) :
    ∃ js, (∃ o, IsScan o js) ∧ textOf js = textOf ts ++ textOf us ∧
      wordsOf js = wordsOf ts ++ wordsOf us ∧
      (wordsOf us ≠ [] → ∃ k, js.getLast? = us.getLast?.map (shift k)) := by
  rcases List.eq_nil_or_concat ts with rfl | ⟨ts, t, rfl⟩
  · exact ⟨us.map (shift 0), ⟨_, h'.shift 0⟩, by simp, by simp, fun _ => ⟨0, by simp⟩⟩
  rw [List.concat_eq_append] at *
  obtain ⟨taken, rest, ht⟩ := exists_takes_of_cleanSeam h h' hc
  have hwords : wordsOf us = wordsOf rest := by
    rw [ht.eq, wordsOf_append, wordsOf_trivia ht.trivia, List.nil_append]
  refine ⟨_, ⟨_, isScan_join h h' ht⟩, ?_, ?_, fun hne => ?_⟩
  · rw [ht.eq]
    simp [extend]
  · have hself : wordsOf [t.extend (textOf taken)] = wordsOf [t] := by
      cases htaken : taken with
      | nil => rw [textOf_nil, extend_nil]
      | cons v vs =>
        have htriv := ht.self (by simp [htaken])
        have htriv' : (t.extend (textOf (v :: vs))).isTrivia = true := htriv
        rw [wordsOf_cons, wordsOf_cons, if_pos htriv, if_pos htriv']
    rw [wordsOf_append, wordsOf_append, wordsOf_append, hself, wordsOf_map_shift, hwords]
  · refine ⟨o + (textOf (ts ++ [t])).length - o', ?_⟩
    rcases List.eq_nil_or_concat rest with rfl | ⟨rs, l, rfl⟩
    · exact absurd hwords hne
    · rw [ht.eq, List.concat_eq_append, List.map_append, ← List.append_assoc, List.map_singleton,
        List.getLast?_concat, ← List.append_assoc, List.getLast?_concat, Option.map_some]

/-- Behind trivia a scan comes to the words that it comes to by itself, all or only those behind the
    first line. -/
theorem wordsOf_behind_trivia {o o' o'' : Int} {fs bs es : List Token} (h : IsScan o fs)
    (ht : ∀ f ∈ fs, f.isTrivia = true) (hbs : IsScan o' bs) (hes : IsScan o'' es)
    (htext : textOf es = textOf fs ++ textOf bs) :
    wordsOf es = wordsOf bs ∨ ∃ us, wordsOf es = wordsOf us ∧ (∃ o, IsScan o us) ∧
      textOf us = (textOf bs).dropWhile (· ≠ '\n') := by
  rcases List.eq_nil_or_concat fs with rfl | ⟨fs, t, rfl⟩
  · exact .inl (wordsOf_eq_of_textOf_eq hes hbs htext)
  rw [List.concat_eq_append] at *
  have htriv := ht t (by simp)
  by_cases hk : t.kind = .comment
  · obtain ⟨e, es', z, hwords, he, hz, _, hscan⟩ := exists_last h hes htext
    have hkind := (h.whole t (by simp)).comment_of_more hk hscan.2.1 he
    have hfs : wordsOf fs = [] := wordsOf_trivia fun f hf => ht f (by simp [hf])
    rw [hfs, List.nil_append, wordsOf_comment hkind] at hwords
    exact .inr ⟨es', hwords, ⟨_, hscan.2.2.2⟩,
      hz ▸ hscan.2.1.rest_of_comment hkind he hscan.2.2.1⟩
  · have hblank : t.kind = .whitespace ∨ t.kind = .newline := by
      cases hkind : t.kind <;> simp_all [isTrivia, TokenKind.isTrivia]
    obtain ⟨js, ⟨_, hjs⟩, hjtext, hjwords, -⟩ := exists_join h hbs (cleanSeam_of_blank hblank)
    refine .inl ?_
    rw [wordsOf_eq_of_textOf_eq hes hjs (htext.trans hjtext.symm), hjwords, wordsOf_trivia ht,
      List.nil_append]

/-- The same holds when the scan starts behind the first line of the trivia, or of what follows. -/
theorem wordsOf_behind_line {o o' o'' : Int} {fs bs es : List Token} (h : IsScan o fs)
    (ht : ∀ f ∈ fs, f.isTrivia = true) (hbs : IsScan o' bs) (hes : IsScan o'' es)
    (htext : textOf es = (textOf fs ++ textOf bs).dropWhile (· ≠ '\n')) :
    wordsOf es = wordsOf bs ∨ ∃ us, wordsOf es = wordsOf us ∧ (∃ o, IsScan o us) ∧
      textOf us = (textOf bs).dropWhile (· ≠ '\n') := by
  induction fs generalizing o with
  | nil => exact .inr ⟨es, rfl, ⟨_, hes⟩, htext⟩
  | cons f fs ih =>
    obtain ⟨-, hw, -, hfs⟩ := h
    have hrest : ∀ g ∈ fs, g.isTrivia = true := fun g hg => ht g (by simp [hg])
    rw [textOf_cons, List.append_assoc] at htext
    by_cases hnl : '\n' ∈ f.text
    · have htriv := ht f (by simp)
      have hk : f.kind ≠ .string := by
        intro hk
        simp [isTrivia, hk, TokenKind.isTrivia] at htriv
      obtain ⟨x, hx, hnx⟩ := hw.eq_append_newline hk hnl
      rw [hx, List.append_assoc, dropLine_of_not_mem hnx, List.singleton_append,
        dropLine_newline] at htext
      obtain ⟨u, us, rfl, hus, hwords, _, hscan⟩ := exists_newline hes htext
      rw [← hwords]
      exact wordsOf_behind_trivia hfs hrest hbs hscan hus
    · rw [dropLine_of_not_mem hnl] at htext
      exact ih hfs hrest htext

theorem Whole.kind_of_hash {t : Token} (h : t.Whole) (ht : t.text = ['#']) : t.kind = .atom := by
  obtain ⟨c, s, hc, hreach⟩ := h
  rw [ht] at hc
  cases hc
  have hatom : reach '#' [] = .ok (.atom, 0) := rfl
  rw [hatom, Except.ok.injEq, Prod.mk.injEq] at hreach
  exact hreach.1.symm

theorem Whole.no_newline {t : Token} (h : t.Whole) (hk : t.kind = .atom) : '\n' ∉ t.text := by
  intro hnl
  cases h.shape with
  | comment kind => simp [kind] at hk
  | string kind => simp [kind] at hk
  | char kind => simp [kind] at hk
  | run _ _ _ clear => exact (clear _ hnl).2 rfl
  | plain _ _ _ line => simp [(line hnl).2] at hk

/-- A scan that starts behind the first line does not come to all the words of the text and to an
    atom before them, if an atom is at the front of the line and trivia behind that. -/
theorem wordsOf_ne_of_atom {o o' o'' : Int} {t f : Token} {fs bs us : List Token} (ht : t.Whole)
    (htk : t.kind = .atom) (hfs : IsScan o (f :: fs)) (hfk : f.kind = .atom)
    (htriv : ∀ u ∈ fs, u.isTrivia = true) (hbs : IsScan o' bs) (hus : IsScan o'' us)
    (htext : textOf us = (textOf (f :: fs) ++ textOf bs).dropWhile (· ≠ '\n')) :
    wordsOf us ≠ wordsOf [t] ++ (wordsOf (f :: fs) ++ wordsOf bs) := by
  intro hwords
  have hpair : wordsOf us = wordsOf [t, f] ++ wordsOf bs := by
    have hf : wordsOf (f :: fs) = wordsOf [f] := by
      rw [← List.singleton_append, wordsOf_append, wordsOf_trivia htriv, List.append_nil]
    rw [hwords, hf, ← List.append_assoc, ← wordsOf_append, List.singleton_append]
  have hne : wordsOf [t, f] ≠ [] := by
    rw [wordsOf_cons, if_neg (by simp [isTrivia, htk, TokenKind.isTrivia])]
    exact List.cons_ne_nil _ _
  have hw : ∀ u ∈ [t, f], u.Whole := by
    simpa using ⟨ht, hfs.2.1⟩
  have hother : ∀ u ∈ [t, f], u.kind ≠ .string := by
    simp [htk, hfk]
  rw [textOf_cons, List.append_assoc, dropLine_of_not_mem (hfs.2.1.no_newline hfk)] at htext
  rcases wordsOf_behind_line hfs.2.2.2 htriv hbs hus htext with hsame | ⟨vs, hvs, ⟨_, hscan⟩, hrest⟩
  · rw [hsame] at hpair
    exact hne (List.self_eq_append_left.1 hpair)
  · exact hne (blankLine_of_wordsOf hbs hscan hrest (foldl_hides_other hw hother false)
      (hvs ▸ hpair)).1

/-- Where three runs have their words in a scan of all their texts, both seams are clean. The first
    run should not end in a comment, and of the second one an atom at the front should be the only
    word. -/
theorem cleanSeams_of_wordsOf {o₁ o₂ o₃ o : Int} {ts fs bs es : List Token} (hts : IsScan o₁ ts)
    (hfs : IsScan o₂ fs) (hbs : IsScan o₃ bs) (hes : IsScan o es)
    (hlast : ∀ t ∈ ts.getLast?, t.kind ≠ .comment) (hne : wordsOf fs ≠ [])
    (hatom : ∀ f us, fs = f :: us → f.kind = .atom → ∀ u ∈ us, u.isTrivia = true)
    (htext : textOf es = textOf ts ++ (textOf fs ++ textOf bs))
    (hwords : wordsOf es = wordsOf ts ++ (wordsOf fs ++ wordsOf bs)) :
    cleanSeam ts fs = true ∧ cleanSeam fs bs = true := by
  have hfirst : cleanSeam ts fs = true := by
    rcases List.eq_nil_or_concat ts with rfl | ⟨ts, t, rfl⟩
    · rfl
    rw [List.concat_eq_append] at *
    cases ends_of_wordsOf hts hes htext hwords with
    | blank kind => exact cleanSeam_of_blank kind
    | stays solid before => exact cleanSeam_of_stays solid (standsBefore_of_append before)
    | @comment us opens scan rest words =>
      exfalso
      rcases opens with hk | ⟨ht, hhead⟩
      · exact hlast t (by simp) hk
      have htk := (hts.whole t (by simp)).kind_of_hash ht
      cases fs with
      | nil => exact hne rfl
      | cons f fs =>
        have hfk : f.kind = .atom := by
          obtain ⟨c, s, hf, hreach⟩ := hfs.2.1
          have hc : c = '!' := by simpa [hf] using hhead
          subst hc
          have hatom : reach '!' s = .ok (.atom, atomReach s) := rfl
          rw [hatom, Except.ok.injEq, Prod.mk.injEq] at hreach
          exact hreach.1.symm
        obtain ⟨_, hus⟩ := scan
        exact wordsOf_ne_of_atom (hts.whole t (by simp)) htk hfs hfk
          (hatom f fs rfl hfk) hbs hus rest words
  refine ⟨hfirst, ?_⟩
  obtain ⟨js, ⟨_, hjs⟩, hjtext, hjwords, hjlast⟩ := exists_join hts hfs hfirst
  obtain ⟨k, hjlast⟩ := hjlast hne
  rw [← cleanSeam_congr hjlast bs]
  rcases List.eq_nil_or_concat js with rfl | ⟨js, t, rfl⟩
  · exact absurd (List.append_eq_nil_iff.1 hjwords.symm).2 hne
  rw [List.concat_eq_append] at *
  have htext' : textOf es = textOf (js ++ [t]) ++ textOf bs := by
    rw [htext, hjtext, List.append_assoc]
  have hwords' : wordsOf es = wordsOf (js ++ [t]) ++ wordsOf bs := by
    rw [hwords, hjwords, List.append_assoc]
  cases ends_of_wordsOf hjs hes htext' hwords' with
  | blank kind => exact cleanSeam_of_blank kind
  | stays solid before => exact cleanSeam_of_stays solid before
  | @comment us opens scan rest words =>
    have hw := hjs.whole t (by simp)
    obtain ⟨_, hus⟩ := scan
    have hk : t.kind = .comment ∨ t.kind = .atom := by
      rcases opens with hk | ⟨ht, -⟩
      · exact .inl hk
      · exact .inr (hw.kind_of_hash ht)
    have hother : ∀ u ∈ [t], u.kind ≠ .string := by
      intro u hu
      rw [List.mem_singleton.1 hu]
      rcases hk with hk | hk <;> simp [hk]
    obtain ⟨hnone, hline⟩ := blankLine_of_wordsOf hbs hus rest
      (foldl_hides_other (by simpa using hw) hother false) words
    have htriv := isTrivia_of_wordsOf hnone
    rcases hk with hk | hk
    · rw [cleanSeam, List.getLast?_concat]
      simp only [hk, hline]
    · simp [isTrivia, hk, TokenKind.isTrivia] at htriv

end Token

end FormEdit
