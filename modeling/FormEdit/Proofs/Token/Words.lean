import FormEdit.Proofs.Token.Growth
import FormEdit.Proofs.Token.Open

set_option autoImplicit false

/-! # Words

A word is a text with no delimiter in it. Atoms are words, and so are the character literals that go
on behind their first character. Of the tokens with a meaning only words and marks go on over
anything (`Token.Whole.clear_of_absorbs`), and a delimiter ends all words but one, `#` before what
opens a form or a string (`Token.Whole.standsBefore_or_hash`). -/

namespace FormEdit

/-! ## Delimiters -/

/-- No delimiter is a letter or a digit. -/
theorem isAlphaNumeric_of_isDelimiter {c : Char} (h : isDelimiter c = true) :
    isAlphaNumeric c = false := by
  simp only [isDelimiter, Bool.or_eq_true, List.contains_iff_mem, List.mem_cons, List.not_mem_nil,
    or_false] at h
  rcases h with (rfl | rfl | rfl | rfl | rfl | rfl | rfl | rfl | rfl) | h
  case inr => exact CharClass.not_contains_of_apart (by decide +kernel) h
  all_goals decide +kernel

/-- A run of blanks has delimiters only. -/
theorem isDelimiter_of_isSpacing {c : Char} (h : isSpacing c = true) : isDelimiter c = true := by
  simp only [isSpacing, Bool.or_eq_true, Bool.and_eq_true, decide_eq_true_eq] at h
  rcases h with rfl | ⟨hb, -⟩
  · decide
  · rw [isDelimiter, hb, Bool.or_true]

/-- What ends an atom is a quotation mark, the start of a comment, blank or a bracket. -/
theorem isDelimiter_cases {c : Char} (h : isDelimiter c = true) :
    c = '"' ∨ c = ';' ∨ (isSpacing c = true ∨ c = '\n') ∨ c ∈ ['(', '[', '{', ')', ']', '}'] := by
  simp only [isDelimiter, Bool.or_eq_true, List.contains_iff_mem, List.mem_cons, List.not_mem_nil,
    or_false] at h
  rcases h with (rfl | rfl | rfl | rfl | rfl | rfl | rfl | rfl | rfl) | hb
  · exact .inr (.inr (.inl (.inl (by decide))))
  all_goals try simp
  by_cases hnl : c = '\n'
  · exact .inr (.inr (.inl (.inr hnl)))
  · exact .inr (.inr (.inl (.inl (by simp [isSpacing, hb, hnl]))))

theorem Bracket.ends_in_delimiter (b : Bracket) :
    (∃ x, b.opening.getLast? = some x ∧ isDelimiter x = true) ∧
      ∃ x, b.closing = [x] ∧ isDelimiter x = true := by
  cases b <;> exact ⟨⟨_, rfl, by decide⟩, _, rfl, by decide⟩

/-! ## What a word leaves open -/

/-- Without a quotation mark only a backslash that stands last is left open. -/
theorem open_of_reach {c : Char} {r : List Char} {l : OpenLiteral} (h : reach c r = .error l)
    (hquote : '"' ∉ c :: r) : c = '\\' ∧ r = [] ∧ l = .char := by
  cases begins_of_reach h with
  | text => exact absurd List.mem_cons_self hquote
  | pattern s => exact absurd (List.mem_cons_of_mem _ List.mem_cons_self) hquote
  | char => exact ⟨rfl, rfl, rfl⟩

/-! ## Tokens with no delimiter in them -/

theorem clear_of_atomReach {s : List Char} (h : atomReach s = s.length) :
    ∀ x ∈ s, isDelimiter x = false := fun x hx => by
  have hall := List.takeWhile_eq_self_iff.1 ((List.takeWhile_prefix _).eq_of_length h)
  simpa using hall x hx

/-- An atom that starts with `#` has no delimiter in it. -/
theorem clear_of_hashReach {s : List Char} (h : hashReach s = .ok (.atom, s.length)) :
    ∀ x ∈ s, isDelimiter x = false := by
  cases s with
  | nil => simp
  | cons d s =>
    rw [List.length_cons] at h
    refine of_ite h (fun _ h => by cases h) fun _ h => of_ite h (fun _ h => ?_) fun _ h => ?_
    · split at h <;> cases h
    refine of_ite h (fun _ h => by cases h) fun _ h => of_ite h (fun _ h => by cases h) fun _ h => ?_
    refine of_ite h (fun _ h => by cases h) fun _ h => of_ite h (fun _ h => by cases h) fun _ h => ?_
    refine of_ite h (fun hd h => ?_) fun _ h => of_ite h (fun _ h => by cases h) fun _ h => ?_
    · have hs : atomReach s = s.length := by
        have := (Token.ok_inj h).2
        omega
      rw [hd]
      exact List.forall_mem_cons.2 ⟨by decide, clear_of_atomReach hs⟩
    · cases h

/-- An atom has no delimiter in it. -/
theorem clear_of_reach {c : Char} {s : List Char} (h : reach c s = .ok (.atom, s.length)) :
    ∀ x ∈ c :: s, isDelimiter x = false := by
  refine of_ite h (fun _ h => by cases h) fun h1 h => of_ite h (fun _ h => by cases h) fun h2 h => ?_
  refine of_ite h (fun _ h => by cases h) fun h3 h => of_ite h (fun _ h => ?_) fun h4 h => ?_
  · split at h <;> cases h
  refine of_ite h (fun _ h => ?_) fun _ h => of_ite h (fun _ h => by cases h) fun h6 h => ?_
  · cases s <;> cases h
  refine of_ite h (fun _ h => by cases h) fun h7 h => of_ite h (fun hc h => ?_) fun _ h => ?_
  · rw [hc]
    exact List.forall_mem_cons.2 ⟨by decide, clear_of_hashReach h⟩
  refine of_ite h (fun _ h => by cases h) fun _ h => of_ite h (fun _ h => by cases h) fun _ h => ?_
  refine List.forall_mem_cons.2 ⟨?_, clear_of_atomReach (Token.ok_inj h).2⟩
  rw [Bool.eq_false_iff]
  intro hdel
  rcases isDelimiter_cases hdel with hc | hc | (hc | hc) | hc
  · exact h4 hc
  · exact h3 hc
  · exact h2 hc
  · exact h1 hc
  · simp only [Bool.or_eq_true, decide_eq_true_eq, not_or] at h6 h7
    simp [h6, h7] at hc

theorem hashReach_ne_char {s : List Char} {n : Nat} : hashReach s ≠ .ok (.char, n) := by
  intro h
  cases s with
  | nil => cases h
  | cons d s =>
    refine of_ite h (fun _ h => by cases h) fun _ h => of_ite h (fun _ h => ?_) fun _ h => ?_
    · split at h <;> cases h
    refine of_ite h (fun _ h => by cases h) fun _ h => of_ite h (fun _ h => by cases h) fun _ h => ?_
    refine of_ite h (fun _ h => by cases h) fun _ h => of_ite h (fun _ h => by cases h) fun _ h => ?_
    refine of_ite h (fun _ h => by cases h) fun _ h => of_ite h (fun _ h => by cases h) fun _ h => ?_
    cases h

/-- A character literal starts with a backslash. -/
theorem eq_backslash_of_reach {c : Char} {s : List Char} {n : Nat}
    (h : reach c s = .ok (.char, n)) : c = '\\' := by
  refine of_ite h (fun _ h => by cases h) fun _ h => of_ite h (fun _ h => by cases h) fun _ h => ?_
  refine of_ite h (fun _ h => by cases h) fun _ h => of_ite h (fun _ h => ?_) fun _ h => ?_
  · split at h <;> cases h
  refine of_ite h (fun hc _ => hc) fun _ h => of_ite h (fun _ h => by cases h) fun _ h => ?_
  refine of_ite h (fun _ h => by cases h) fun _ h => of_ite h (fun _ h => ?_) fun _ h => ?_
  · exact absurd h hashReach_ne_char
  refine of_ite h (fun _ h => by cases h) fun _ h => of_ite h (fun _ h => by cases h) fun _ h => ?_
  cases h

namespace Token

variable {t : Token}

/-- A character literal that goes on over anything has no delimiter in it. -/
theorem Whole.clear_of_char (h : t.Whole) (hk : t.kind = .char) {x : Char}
    (hx : t.absorbs x = true) : ∀ a ∈ t.text, isDelimiter a = false := by
  obtain ⟨c, s, ht, hreach⟩ := h
  rw [hk] at hreach
  obtain rfl := eq_backslash_of_reach hreach
  cases s with
  | nil => cases hreach
  | cons d s =>
    have hd : ∀ r, reach '\\' (d :: r) =
        .ok (.char, if isAlphaNumeric d then 1 + atomReach r else 1) := fun _ => rfl
    cases halpha : isAlphaNumeric d with
    | false =>
      -- The literal has two characters whatever comes next.
      simp [absorbs, ht, hd, halpha] at hx
    | true =>
      rw [hd, halpha, if_pos rfl, List.length_cons] at hreach
      have hs : atomReach s = s.length := by
        have := (ok_inj hreach).2
        omega
      have hd : isDelimiter d = false := by
        rw [Bool.eq_false_iff]
        intro hdel
        rw [isAlphaNumeric_of_isDelimiter hdel] at halpha
        cases halpha
      rw [ht]
      exact List.forall_mem_cons.2 ⟨by decide, List.forall_mem_cons.2 ⟨hd, clear_of_atomReach hs⟩⟩

/-- Brackets and strings end with a delimiter. -/
theorem Whole.ends_in_delimiter (h : t.Whole)
    (hk : t.kind = .opener ∨ t.kind = .closer ∨ t.kind = .string) :
    ∃ e, t.text.getLast? = some e ∧ isDelimiter e = true := by
  rcases hk with hk | hk | hk
  · obtain ⟨c, s, ht, hreach⟩ := h
    have hfits := fits_of_reach hreach
    rw [hk] at hfits
    obtain ⟨b, hb⟩ := hfits
    rw [ht, ← s.take_length, ← hb]
    exact b.ends_in_delimiter.1
  · obtain ⟨c, s, ht, hreach⟩ := h
    have hfits := fits_of_reach hreach
    rw [hk] at hfits
    obtain ⟨b, hb, hs⟩ := hfits
    obtain ⟨x, hx, hdel⟩ := b.ends_in_delimiter.2
    rw [ht, List.eq_nil_of_length_eq_zero hs, ← hb, hx]
    exact ⟨x, rfl, hdel⟩
  · obtain ⟨m, s, -, ht, hs⟩ := h.text_of_string hk
    refine ⟨'"', ?_, isDelimiter_quote⟩
    rw [ht, List.getLast?_append, List.getLast?_cons, hs.getLast?]
    rfl

/-- Brackets and strings go on over nothing. -/
theorem Whole.still_of_ends (h : t.Whole)
    (hk : t.kind = .opener ∨ t.kind = .closer ∨ t.kind = .string) (x : Char) :
    t.absorbs x = false := by
  obtain ⟨e, he, hdel⟩ := h.ends_in_delimiter hk
  cases h.growth with
  | still stays => exact stays x
  | blanks kind => simp [kind] at hk
  | line kind => simp [kind] at hk
  | run runs =>
    -- With a letter behind it it would be a token of the same kind that ends with the letter.
    have hlonger : (t.extend ['a']).Whole :=
      (runs.extend (List.forall_mem_singleton.2 (by decide))).whole
    obtain ⟨e, he, hdel⟩ := hlonger.ends_in_delimiter hk
    rw [extend, List.getLast?_concat, Option.some.injEq] at he
    rw [← he] at hdel
    exact absurd hdel (by decide)
  | optional ends _ =>
    rcases ends with ends | ends
    all_goals
      rw [ends, Option.some.injEq] at he
      rw [← he] at hdel
      exact absurd hdel (by decide)
  | hash text =>
    rw [text, List.getLast?_singleton, Option.some.injEq] at he
    rw [← he] at hdel
    exact absurd hdel (by decide)

/-- A token with a meaning that goes on over anything is a mark or a word. -/
theorem Whole.clear_of_absorbs (h : t.Whole) (hmark : t.kind ≠ .mark) (htrivia : t.isTrivia = false)
    {x : Char} (hx : t.absorbs x = true) : ∀ a ∈ t.text, isDelimiter a = false := by
  have hends : ¬ (t.kind = .opener ∨ t.kind = .closer ∨ t.kind = .string) := fun hk => by
    rw [h.still_of_ends hk x] at hx
    cases hx
  cases hk : t.kind with
  | opener | closer | string => simp [hk] at hends
  | mark => exact absurd hk hmark
  | comment | whitespace | newline => simp [isTrivia, hk, TokenKind.isTrivia] at htrivia
  | char => exact h.clear_of_char hk hx
  | atom =>
    obtain ⟨c, s, ht, hreach⟩ := h
    rw [hk] at hreach
    rw [ht]
    exact clear_of_reach hreach

/-- A word that is one token and no comment stays as it is before a delimiter, but for `#` before what
    opens a form or a string. -/
theorem Whole.standsBefore_or_hash (h : t.Whole) (hk : t.kind ≠ .comment)
    (hclear : ∀ a ∈ t.text, isDelimiter a = false) {d : Char} (hd : isDelimiter d = true)
    (r : List Char) :
    t.StandsBefore (d :: r) ∨ t.text = ['#'] ∧ (d = '{' ∨ d = '(' ∨ d = '"') := by
  have hstand : t.absorbs d = false → t.StandsBefore (d :: r) := fun habs x hx => by
    rw [List.head?_cons, Option.mem_some_iff] at hx
    rwa [← hx]
  cases h.growth with
  | still stays => exact .inl (hstand (stays d))
  | blanks kind =>
    obtain ⟨c, s, ht, -⟩ := id h
    have hmem : c ∈ t.text := by simp [ht]
    have hc := isDelimiter_of_isSpacing ((h.runsOver_whitespace kind).2 c hmem)
    rw [hclear c hmem] at hc
    cases hc
  | line kind => exact absurd kind hk
  | run runs => exact .inl (hstand (by rw [runs.absorbs_eq, hd, Bool.not_true]))
  | optional _ only =>
    refine .inl (hstand ?_)
    by_contra habs
    rw [only d (by simpa using habs)] at hd
    exact absurd hd (by decide)
  | hash text =>
    by_cases hopens : d = '{' ∨ d = '(' ∨ d = '"'
    · exact .inr ⟨text, hopens⟩
    · simp only [not_or] at hopens
      have hreach : reach '#' [d] = .ok (.atom, 0) :=
        hashReach_cons_of_isDelimiter hd hopens.1 hopens.2.1 hopens.2.2 []
      exact .inl (hstand (by simp [absorbs, text, hreach]))

end Token

end FormEdit
