import FormEdit.Proofs.Token.Scan

set_option autoImplicit false

/-! # Literals that are left open

A scan stops only at a quotation mark, alone or behind `#`, that nothing closes, or at a backslash
that stands last (`OpenLiteral.Begins`). Up to there the source is a run of tokens, and one or two
quotation marks behind the source close the literal, which is the last token then
(`tokenize_stops_at_literal`). -/

namespace FormEdit

namespace OpenLiteral

/-- The kind of the token that a literal is once it is closed. -/
def kind : OpenLiteral → TokenKind
  | string => .string
  | char => .char

/-- How a text begins that a literal leaves open. -/
inductive Begins : OpenLiteral → List Char → Prop
  | text (r : List Char) : Begins string ('"' :: r)
  | pattern (r : List Char) : Begins string ('#' :: '"' :: r)
  | char : Begins char ['\\']

end OpenLiteral

open OpenLiteral

variable {c : Char} {r : List Char} {literal : OpenLiteral} {n : Nat}

theorem begins_of_hashReach (h : hashReach r = .error literal) : literal.Begins ('#' :: r) := by
  cases r with
  | nil => cases h
  | cons d s =>
    refine of_ite h (fun _ h => by cases h) fun _ h => of_ite h (fun hd h => ?_) fun _ h => ?_
    · split at h
      · cases h
      · cases h
        rw [hd]
        exact .pattern s
    refine of_ite h (fun _ h => by cases h) fun _ h => of_ite h (fun _ h => by cases h) fun _ h => ?_
    refine of_ite h (fun _ h => by cases h) fun _ h => of_ite h (fun _ h => by cases h) fun _ h => ?_
    refine of_ite h (fun _ h => by cases h) fun _ h => of_ite h (fun _ h => by cases h) fun _ h => ?_
    cases h

/-- A literal that is left open is a string, a pattern or a backslash that stands last. -/
theorem begins_of_reach (h : reach c r = .error literal) : literal.Begins (c :: r) := by
  refine of_ite h (fun _ h => by cases h) fun _ h => of_ite h (fun _ h => by cases h) fun _ h => ?_
  refine of_ite h (fun _ h => by cases h) fun _ h => of_ite h (fun hc h => ?_) fun _ h => ?_
  · split at h
    · cases h
    · cases h
      rw [hc]
      exact .text r
  refine of_ite h (fun hc h => ?_) fun _ h => of_ite h (fun _ h => by cases h) fun _ h => ?_
  · cases r with
    | nil =>
      cases h
      rw [hc]
      exact .char
    | cons d s => cases h
  refine of_ite h (fun _ h => by cases h) fun _ h => of_ite h (fun hc h => ?_) fun _ h => ?_
  · rw [hc]
    exact begins_of_hashReach h
  refine of_ite h (fun _ h => by cases h) fun _ h => of_ite h (fun _ h => by cases h) fun _ h => ?_
  cases h

/-! ## Closing a literal -/

/-- A quotation mark closes a string. Behind a backslash that stands last it takes two, as the
    backslash takes the first with it. -/
theorem exists_closing_stringReach? (h : stringReach? n r = none) :
    ∃ more, more.length ≤ 2 ∧ stringReach? n (r ++ more) = some (n + (r ++ more).length) := by
  fun_induction stringReach? n r with
  | case1 n => exact ⟨['"'], by simp, rfl⟩
  | case2 n => exact ⟨['"', '"'], by simp, rfl⟩
  | case3 n d s ih =>
    obtain ⟨more, hlen, hmore⟩ := ih h
    refine ⟨more, hlen, ?_⟩
    rw [List.cons_append, List.cons_append, stringReach?, hmore]
    simp only [List.length_cons]
    congr 1
    omega
  | case4 n s => cases h
  | case5 n c s h1 h2 h3 ih =>
    obtain ⟨more, hlen, hmore⟩ := ih h
    refine ⟨more, hlen, ?_⟩
    rw [List.cons_append, stringReach?_cons (ne_backslash h1 h2), if_neg h3, hmore]
    simp only [List.length_cons]
    congr 1
    omega

/-- A string that is behind its opening mark and nothing else, or behind `#` and the mark. -/
theorem reach_string (r : List Char) :
    reach '"' r = (match stringReach? 0 r with
      | some n => .ok (.string, n)
      | none => .error .string) ∧
    reach '#' ('"' :: r) = match stringReach? 1 r with
      | some n => .ok (.string, n)
      | none => .error .string :=
  ⟨rfl, rfl⟩

/-- A literal that is left open is one token with at most two characters more behind it. -/
theorem exists_closing_reach (h : reach c r = .error literal) :
    ∃ more, more.length ≤ 2 ∧
      reach c (r ++ more) = .ok (literal.kind, (r ++ more).length) := by
  cases begins_of_reach h with
  | text =>
    have hopen : stringReach? 0 r = none := by
      rw [(reach_string r).1] at h
      split at h
      · cases h
      · assumption
    obtain ⟨more, hlen, hmore⟩ := exists_closing_stringReach? hopen
    refine ⟨more, hlen, ?_⟩
    rw [(reach_string _).1, hmore, Nat.zero_add, kind]
  | pattern s =>
    have hopen : stringReach? 1 s = none := by
      rw [(reach_string s).2] at h
      split at h
      · cases h
      · assumption
    obtain ⟨more, hlen, hmore⟩ := exists_closing_stringReach? hopen
    refine ⟨more, hlen, ?_⟩
    rw [List.cons_append, (reach_string _).2, hmore, List.length_cons, Nat.add_comm, kind]
  | char =>
    refine ⟨['"'], by simp, ?_⟩
    show Except.ok (TokenKind.char, if isAlphaNumeric '"' then 1 + atomReach [] else 1) = _
    split <;> rfl

/-! ## Where a source stops -/

/-- A source that is cut into no tokens stops at a literal that is left open. Up to the literal the
    source is the run of tokens that was scanned, and with at most two characters more behind it
    the same tokens are followed by the literal as the last one. -/
theorem tokenize_stops_at_literal {source : List Char} {e : LexicalError}
    (h : tokenize source = .error e) :
    ∃ (k : Nat) (us : List Token), e.place.offset = k ∧ scan source = ⟨us, some e.literal⟩ ∧
      tokenize (source.take k) = .ok us ∧ e.literal.Begins (source.drop k) ∧
      ∃ more, more.length ≤ 2 ∧ tokenize (source ++ more) =
        .ok (us ++ [⟨e.literal.kind, source.drop k ++ more, k⟩]) := by
  obtain ⟨literal, hstop, rfl⟩ : ∃ literal, (scan source).stop = some literal ∧
      e = ⟨literal, Position.start.advance (Token.textOf (scan source).tokens)⟩ := by
    rw [tokenize] at h
    split at h
    · cases h
    · next literal hstop =>
      cases h
      exact ⟨literal, hstop, rfl⟩
  have hscan : scan source = ⟨(scan source).tokens, some literal⟩ := by rw [← hstop]
  obtain ⟨us, -, hus, htext, hs, hlast, c, r, rfl, hopen⟩ := Token.exists_isScan_of_scanFrom hscan
  rw [List.reverse_nil, List.nil_append] at hus
  rw [hus] at hscan ⊢
  subst htext
  refine ⟨(Token.textOf us).length, us, ?_, hscan, ?_, ?_, ?_⟩
  · rw [Position.advance_offset]
    exact Int.zero_add _
  · rw [List.take_left]
    exact tokenize_eq_ok_iff.2 ⟨rfl, hs⟩
  · rw [List.drop_left]
    exact begins_of_reach hopen
  · obtain ⟨more, hlen, hclosed⟩ := exists_closing_reach hopen
    refine ⟨more, hlen, tokenize_eq_ok_iff.2 ⟨?_, Token.isScan_append.2 ⟨hs, ?_, ?_⟩⟩⟩
    · simp
    · exact ⟨by simp, ⟨c, r ++ more, by simp, hclosed⟩, Token.standsBefore_nil _, trivial⟩
    · simpa [Token.StandsBefore] using hlast

/-- The marks in the comment and in the character literal open nothing, the pattern behind them is
    open, and its last backslash takes a character with it. -/
theorem tokenize_stops_at_literal_pattern :
    let source := [';', '"', '\n', '\\', '"', '#', '"', 'x', '\\']
    tokenize source = .error ⟨.string, ⟨5, 2, 3⟩⟩ ∧
    ∃ us more, tokenize (source.take 5) = .ok us ∧ more.length ≤ 2 ∧
      tokenize (source ++ more) = .ok (us ++ [⟨.string, ['#', '"', 'x', '\\'] ++ more, 5⟩]) := by
  intro source
  have h : tokenize source = .error ⟨.string, ⟨5, 2, 3⟩⟩ := by decide +kernel
  obtain ⟨k, us, hk, -, hus, -, more, hlen, hmore⟩ := tokenize_stops_at_literal h
  obtain rfl : 5 = k := Int.ofNat.inj hk
  exact ⟨h, us, more, hus, hlen, hmore⟩

end FormEdit
