import FormEdit.Proofs.Token.Shape

set_option autoImplicit false

/-! # How tokens go on

Which characters a token goes on over depends on its looks: most tokens stop where they end, blanks
and comments go on for a run, atoms and their like up to a delimiter, and two marks wait for `@`
(`Token.Whole.growth`). So what is put between a blank or an opening bracket and a blank or a
closing bracket stays apart from both (`standsBefore_of_opensPlace`, `standsBefore_closesPlace`). -/

namespace FormEdit

namespace Token

/-- The ways in which a token may go on over a character behind it. -/
inductive Growth (t : Token) : Prop
  | still (stays : ∀ x, t.absorbs x = false)
  | blanks (kind : t.kind = .whitespace)
  | line (kind : t.kind = .comment)
  | run (runs : t.RunsOver fun c => !isDelimiter c)
  | optional (ends : t.text.getLast? = some '~' ∨ t.text.getLast? = some '?')
    (only : ∀ x, t.absorbs x = true → x = '@')
  | hash (text : t.text = ['#'])

theorem ok_inj {ε α β : Type} {a a' : α} {b b' : β}
    (h : (.ok (a, b) : Except ε (α × β)) = .ok (a', b')) : a = a' ∧ b = b' := by
  simpa using h

section

variable {t : Token} {c : Char} {d s : List Char}

/-- A token that comes to the same whatever stands behind it. -/
theorem Growth.of_reach (ht : t.text = c :: s)
    (h : ∀ r, reach c (s ++ r) = .ok (t.kind, s.length)) : t.Growth := by
  refine .still fun x => ?_
  simp [absorbs, ht, h]

/-- A mark that takes in `@` if it comes next. -/
theorem Growth.of_optional (ht : t.text = c :: d) (hd : (c :: d).getLast? = some '~' ∨
      (c :: d).getLast? = some '?')
    (h : ∀ r, reach c (d ++ r) =
      .ok (.mark, d.length + if r.head? = some '@' then 1 else 0)) : t.Growth := by
  refine .optional (by rwa [ht]) fun x hx => ?_
  by_contra hne
  simp [absorbs, ht, h, hne] at hx

end

theorem growth_char {t : Token} {d : Char} {s : List Char} (ht : t.text = '\\' :: d :: s)
    (hk : t.kind = .char)
    (h : (if isAlphaNumeric d then 1 + atomReach s else 1) = (d :: s).length) : t.Growth := by
  have hr : ∀ r, reach '\\' (d :: r) =
      .ok (.char, if isAlphaNumeric d then 1 + atomReach r else 1) := fun _ => rfl
  by_cases hd : isAlphaNumeric d
  · rw [if_pos hd, List.length_cons] at h
    refine .run (runsOver_atom (d := [d]) ht (fun r => ?_) (by omega))
    rw [List.cons_append, List.nil_append, hr, if_pos hd, hk, List.length_singleton]
  · rw [if_neg hd, List.length_cons] at h
    have hs := List.eq_nil_of_length_eq_zero (l := s) (by omega)
    rw [hs] at ht
    refine .of_reach ht fun r => ?_
    rw [List.cons_append, hr, if_neg hd, hk, List.length_singleton]

theorem growth_hash {t : Token} {s : List Char} (ht : t.text = '#' :: s)
    (h : hashReach s = .ok (t.kind, s.length)) : t.Growth := by
  have hreach : ∀ r, reach '#' r = hashReach r := fun _ => rfl
  cases s with
  | nil => exact .hash ht
  | cons d s =>
    rw [List.length_cons] at h
    refine of_ite h (fun hd h => ?_) fun h1 h => of_ite h (fun hd h => ?_) fun h2 h => ?_
    · obtain ⟨hk, hn⟩ := ok_inj h
      obtain rfl := List.eq_nil_of_length_eq_zero (l := s) (by omega)
      refine .of_reach ht fun r => ?_
      rw [hreach, List.singleton_append, hashReach, if_pos hd, ← hk, List.length_singleton]
    · split at h
      · next n hm =>
        obtain ⟨hk, hn⟩ := ok_inj h
        refine .of_reach ht fun r => ?_
        rw [hreach, List.cons_append, hashReach, if_neg h1, if_pos hd, stringReach?_append r hm,
          List.length_cons, ← hk, ← hn]
      · cases h
    refine of_ite h (fun hd h => ?_) fun h3 h => of_ite h (fun hd h => ?_) fun h4 h => ?_
    · obtain ⟨hk, hn⟩ := ok_inj h
      exact .line hk.symm
    · obtain ⟨hk, hn⟩ := ok_inj h
      obtain rfl := List.eq_nil_of_length_eq_zero (l := s) (by omega)
      refine .of_reach ht fun r => ?_
      rw [hreach, List.singleton_append, hashReach, if_neg h1, if_neg h2, if_neg h3, if_pos hd,
        ← hk, List.length_singleton]
    refine of_ite h (fun hd h => ?_) fun h5 h => of_ite h (fun hd h => ?_) fun h6 h => ?_
    · obtain ⟨hk, hn⟩ := ok_inj h
      have hlen : (if s.head? = some '@' then 1 else 0) = s.length := by
        have hlen := hn
        split_ifs at hlen ⊢ <;> omega
      subst hd
      -- With the `@` the mark has all that it can take in.
      rcases eq_nil_or_eq_of_optional hlen with rfl | rfl
      · refine .of_optional ht (.inr rfl) fun r => ?_
        show Except.ok (TokenKind.mark, if r.head? = some '@' then 2 else 1) = _
        split_ifs <;> rfl
      · refine .of_reach ht fun r => ?_
        rw [← hk]
        rfl
    · obtain ⟨hk, hn⟩ := ok_inj h
      subst hd
      refine .run (runsOver_atom (d := [':']) ht (fun r => ?_) (by omega))
      rw [← hk]
      rfl
    refine of_ite h (fun hd h => ?_) fun h7 h => of_ite h (fun hd h => ?_) fun h8 h => ?_
    · obtain ⟨hk, hn⟩ := ok_inj h
      subst hd
      refine .run (runsOver_atom (d := ['#']) ht (fun r => ?_) (by omega))
      rw [← hk]
      rfl
    · obtain ⟨hk, hn⟩ := ok_inj h
      omega
    · obtain ⟨hk, hn⟩ := ok_inj h
      refine .run (runsOver_atom (d := []) ht (fun r => ?_) (by simpa using hn))
      rw [List.nil_append, List.cons_append, hreach, hashReach, if_neg h1, if_neg h2, if_neg h3,
        if_neg h4, if_neg h5, if_neg h6, if_neg h7, if_neg h8, ← hk]
      simp

/-- A token goes on in one of the ways. -/
theorem Whole.growth {t : Token} (h : t.Whole) : t.Growth := by
  obtain ⟨c, s, ht, h⟩ := h
  refine of_ite h (fun hc h => ?_) fun h1 h => of_ite h (fun hc h => ?_) fun h2 h => ?_
  · obtain ⟨hk, hn⟩ := ok_inj h
    subst hc
    obtain rfl := List.eq_nil_of_length_eq_zero hn.symm
    exact .of_reach ht fun r => by rw [← hk]; rfl
  · obtain ⟨hk, hn⟩ := ok_inj h
    exact .blanks hk.symm
  refine of_ite h (fun hc h => ?_) fun h3 h => of_ite h (fun hc h => ?_) fun h4 h => ?_
  · obtain ⟨hk, hn⟩ := ok_inj h
    exact .line hk.symm
  · split at h
    · next n hm =>
      obtain ⟨hk, hn⟩ := ok_inj h
      refine .of_reach ht fun r => ?_
      rw [reach.eq_def, if_neg h1, if_neg h2, if_neg h3, if_pos hc, stringReach?_append r hm, ← hk,
        ← hn]
    · cases h
  refine of_ite h (fun hc h => ?_) fun h5 h => of_ite h (fun hc h => ?_) fun h6 h => ?_
  · cases s with
    | nil => cases h
    | cons d s =>
      obtain ⟨hk, hn⟩ := ok_inj h
      rw [hc] at ht
      exact growth_char ht hk.symm hn
  · obtain ⟨hk, hn⟩ := ok_inj h
    obtain rfl := List.eq_nil_of_length_eq_zero hn.symm
    refine .of_reach ht fun r => ?_
    rw [reach.eq_def, if_neg h1, if_neg h2, if_neg h3, if_neg h4, if_neg h5, if_pos hc, ← hk]
    rfl
  refine of_ite h (fun hc h => ?_) fun h7 h => of_ite h (fun hc h => ?_) fun h8 h => ?_
  · obtain ⟨hk, hn⟩ := ok_inj h
    obtain rfl := List.eq_nil_of_length_eq_zero hn.symm
    refine .of_reach ht fun r => ?_
    rw [reach.eq_def, if_neg h1, if_neg h2, if_neg h3, if_neg h4, if_neg h5, if_neg h6, if_pos hc,
      ← hk]
    rfl
  · rw [hc] at ht
    exact growth_hash ht h
  refine of_ite h (fun hc h => ?_) fun h9 h => of_ite h (fun hc h => ?_) fun h10 h => ?_
  · obtain ⟨hk, hn⟩ := ok_inj h
    subst hc
    rcases eq_nil_or_eq_of_optional hn with rfl | rfl
    · refine .of_optional ht (.inl rfl) fun r => ?_
      show Except.ok (TokenKind.mark, if r.head? = some '@' then 1 else 0) = _
      split_ifs <;> rfl
    · refine .of_reach ht fun r => ?_
      rw [← hk]
      rfl
  · obtain ⟨hk, hn⟩ := ok_inj h
    obtain rfl := List.eq_nil_of_length_eq_zero hn.symm
    refine .of_reach ht fun r => ?_
    rw [reach.eq_def, if_neg h1, if_neg h2, if_neg h3, if_neg h4, if_neg h5, if_neg h6, if_neg h7,
      if_neg h8, if_neg h9, if_pos hc, ← hk]
    rfl
  · obtain ⟨hk, hn⟩ := ok_inj h
    refine .run (runsOver_atom (d := []) ht (fun r => ?_) hn)
    rw [List.nil_append, reach.eq_def, if_neg h1, if_neg h2, if_neg h3, if_neg h4, if_neg h5,
      if_neg h6, if_neg h7, if_neg h8, if_neg h9, if_neg h10, ← hk]
    simp

/-! ## Places for a form -/

/-- Whether a character may stand before a place that is kept for a form: a blank, a comma or an
    opening bracket. -/
def opensPlace (c : Char) : Bool := isSpacing c || c = '\n' || ['(', '[', '{'].contains c

/-- Whether a character may stand behind a place that is kept for a form: a blank, a comma or a
    closing bracket. -/
def closesPlace (c : Char) : Bool := isSpacing c || c = '\n' || [')', ']', '}'].contains c

theorem isDelimiter_of_closesPlace {c : Char} (h : closesPlace c = true) :
    isDelimiter c = true := by
  simp only [closesPlace, isSpacing, Bool.or_eq_true, Bool.and_eq_true, decide_eq_true_eq,
    List.contains_iff_mem, List.mem_cons, List.not_mem_nil, or_false] at h
  rcases h with ((rfl | ⟨hb, -⟩) | rfl) | rfl | rfl | rfl
  · decide
  · rw [isDelimiter, hb, Bool.or_true]
  all_goals decide

/-- Where a token that is not trivia starts, blanks do not go on. -/
theorem isSpacing_of_solid {t : Token} (h : t.Whole) (hs : t.isTrivia = false) :
    ∀ x ∈ t.text.head?, isSpacing x = false := by
  obtain ⟨c, s, ht, hreach⟩ := h
  intro x hx
  rw [ht, List.head?_cons, Option.mem_some_iff] at hx
  by_contra hc
  rw [← hx, Bool.not_eq_false] at hc
  rw [reach_spacing hc] at hreach
  rw [isTrivia, ← (ok_inj hreach).1] at hs
  cases hs

/-- What stays as it is before a letter and ends where a place opens stays as it is before any token
    that is not trivia. -/
theorem Whole.standsBefore_of_opensPlace {t u : Token} (h : t.Whole)
    (hlast : ∀ c ∈ t.text.getLast?, opensPlace c = true) (hx : t.absorbs 'x' = false)
    (hu : u.Whole) (hs : u.isTrivia = false) : t.StandsBefore u.text := by
  cases h.growth with
  | still stays => exact fun y _ => stays y
  | blanks kind =>
    rw [(h.runsOver_whitespace kind).1.standsBefore_iff]
    exact isSpacing_of_solid hu hs
  | line kind =>
    -- A comment goes on over the letter.
    rw [(h.runsOver_comment kind).1.absorbs_eq] at hx
    cases hx
  | run runs =>
    rw [runs.absorbs_eq] at hx
    exact absurd hx (by decide)
  | optional ends _ =>
    rcases ends with ends | ends
    · exact absurd (hlast '~' ends) (by decide)
    · exact absurd (hlast '?' ends) (by decide)
  | hash text =>
    rw [text] at hlast
    exact absurd (hlast '#' rfl) (by decide)

/-- What is not trivia stays as it is before what closes a place. -/
theorem Whole.standsBefore_closesPlace {t : Token} (h : t.Whole) (hs : t.isTrivia = false)
    {r : List Char} (hr : ∀ c ∈ r.head?, closesPlace c = true) : t.StandsBefore r := by
  intro c hc
  have hc := hr c hc
  have hdel := isDelimiter_of_closesPlace hc
  have hne : ∀ x, closesPlace x = false → c ≠ x := by
    rintro x hx rfl
    rw [hc] at hx
    cases hx
  cases h.growth with
  | still stays => exact stays c
  | blanks kind => simp [isTrivia, kind, TokenKind.isTrivia] at hs
  | line kind => simp [isTrivia, kind, TokenKind.isTrivia] at hs
  | run runs => rw [runs.absorbs_eq, hdel, Bool.not_true]
  | optional _ only =>
    by_contra habs
    exact hne '@' (by decide) (only c (by simpa using habs))
  | hash text =>
    have hreach : reach '#' [c] = .ok (.atom, 0) :=
      hashReach_cons_of_isDelimiter hdel (hne '{' (by decide)) (hne '(' (by decide))
        (hne '"' (by decide)) []
    simp [absorbs, text, hreach]

end Token

end FormEdit
