import FormEdit.Proofs.Token.Lines

set_option autoImplicit false

/-! # What goes on over an opening bracket

A list may be put where a form is, for what stays as it is before a form does so before `(` too. The
one exception is an atom `#`: it becomes the opener `#(` and stays alone before a vector only
(`Whole.standsBefore_paren`, `eq_vector_of_hash`). -/

namespace FormEdit

namespace Token

/-- Whether a token is an atom `#` and nothing more. -/
def IsHash (t : Token) : Prop := t.kind = .atom ∧ t.text = ['#']

/-- A token that is `#` alone is an atom. -/
theorem Whole.isHash {t : Token} (h : t.Whole) (ht : t.text = ['#']) : t.IsHash := by
  obtain ⟨c, s, hc, hreach⟩ := h
  rw [ht] at hc
  cases hc
  exact ⟨(ok_inj hreach).1.symm, ht⟩

/-- What stays as it is before a token that is not trivia does so before `(`, but for an atom
    `#`. -/
theorem Whole.standsBefore_paren {t u : Token} (h : t.Whole) (hu : u.Whole)
    (hs : u.isTrivia = false) (hb : t.StandsBefore u.text) (hhash : ¬t.IsHash) (r : List Char) :
    t.StandsBefore ('(' :: r) := by
  intro x hx
  obtain rfl : '(' = x := by simpa using hx
  cases h.growth with
  | still stays => exact stays '('
  | blanks kind =>
    rw [(h.runsOver_whitespace kind).1.absorbs_eq]
    decide
  | line kind => exact absurd kind (h.not_comment_of_standsBefore hu hs hb)
  | run runs =>
    rw [runs.absorbs_eq]
    decide
  | optional _ only =>
    by_contra habs
    exact absurd (only '(' (by simpa using habs)) (by decide)
  | hash text => exact absurd (h.isHash text) hhash

/-- Before which characters `#` stays alone: those that end an atom and open nothing with it. -/
theorem IsHash.isDelimiter {t : Token} (h : t.IsHash) {x : Char} (hx : t.absorbs x = false) :
    FormEdit.isDelimiter x = true ∧ x ≠ '{' ∧ x ≠ '(' ∧ x ≠ '"' := by
  rw [absorbs, h.2] at hx
  simp only [List.nil_append] at hx
  split at hx
  · next k n hreach =>
    have hn : n ≤ 0 := by simpa using hx
    have hhash : hashReach [x] = .ok (k, n) := hreach
    exact (hashReach_cons_zero hhash hn).2.2
  · cases hx

/-- A token that is not trivia and starts with what ends an atom is a bracket or a string. -/
theorem Whole.bracket_of_isDelimiter {t : Token} {x : Char} {s : List Char} (h : t.Whole)
    (hs : t.isTrivia = false) (ht : t.text = x :: s) (hx : FormEdit.isDelimiter x = true)
    (hcurly : x ≠ '{') (hround : x ≠ '(') (hquote : x ≠ '"') :
    t.kind = .closer ∨ t.kind = .opener ∧ t.text = ['['] := by
  obtain ⟨c, r, hc, hreach⟩ := h
  rw [ht] at hc
  cases hc
  have htrivia : ∀ {k n}, reach x s = .ok (k, n) → k.isTrivia = false := by
    intro k n hk
    rw [hreach] at hk
    rw [← (ok_inj hk).1]
    exact hs
  have hblank : ¬isSpacing x = true := by
    intro hspace
    cases htrivia (reach_spacing hspace s)
  simp only [FormEdit.isDelimiter, Bool.or_eq_true, List.contains_iff_mem, List.mem_cons,
    List.not_mem_nil, or_false] at hx
  rcases hx with (rfl | rfl | rfl | rfl | rfl | rfl | rfl | rfl | rfl) | hb
  · exact absurd (by decide) hblank
  · exact absurd rfl hround
  · exact .inl (ok_inj hreach).1.symm
  · obtain ⟨hk, hn⟩ := ok_inj hreach
    obtain rfl := List.eq_nil_of_length_eq_zero hn.symm
    exact .inr ⟨hk.symm, ht⟩
  · exact .inl (ok_inj hreach).1.symm
  · exact absurd rfl hcurly
  · exact .inl (ok_inj hreach).1.symm
  · exact absurd rfl hquote
  · cases htrivia (k := .comment) rfl
  · -- A blank is a line end or goes with the blanks behind it.
    by_cases hnl : x = '\n'
    · subst hnl
      cases htrivia (reach_newline s)
    · exact absurd (by simp [isSpacing, hb, hnl]) hblank

end Token

end FormEdit
