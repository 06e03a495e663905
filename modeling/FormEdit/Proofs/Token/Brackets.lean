import FormEdit.Proofs.Token.Words

set_option autoImplicit false

/-! # The brackets of a text

The brackets of a text in order are all that decides which closer goes with which opener. They are
said here of the text and not of a run of tokens (`brackets?`), so that texts can be compared that
are cut into tokens in different ways. What a word does to the brackets behind it depends only on
how the word ends when it is read by itself: with nothing open, in a comment or in a character
literal (`brackets?_word`). -/

namespace FormEdit

/-! ## Brackets in order -/

/-- The bracket that a token of a kind is, if it is one. An opener such as `#{` ends with it. -/
def TokenKind.bracket? (k : TokenKind) (text : List Char) : Option Char :=
  match k with
  | .opener | .closer => text.getLast?
  | _ => none

/-- The brackets of a text in order, none if the text leaves a literal open. -/
def brackets? : List Char → Option (List Char)
  | [] => some []
  | c :: r =>
    match reach c r with
    | .error _ => none
    | .ok (k, n) => (brackets? (r.drop n)).map ((k.bracket? (c :: r.take n)).toList ++ ·)
  termination_by s => s.length
  decreasing_by simp only [List.length_drop, List.length_cons]; omega

theorem brackets?_cons {c : Char} {r : List Char} {k : TokenKind} {n : Nat}
    (h : reach c r = .ok (k, n)) :
    brackets? (c :: r) =
      (brackets? (r.drop n)).map ((k.bracket? (c :: r.take n)).toList ++ ·) := by
  rw [brackets?]
  simp only [h]

theorem brackets?_of_open {c : Char} {r : List Char} {l : OpenLiteral}
    (h : reach c r = .error l) : brackets? (c :: r) = none := by
  rw [brackets?]
  simp only [h]

namespace Token

/-- The bracket that a token is, if it is one. -/
def bracket? (t : Token) : Option Char := t.kind.bracket? t.text

/-- The brackets of a run of tokens in order. -/
def bracketsOf (ts : List Token) : List Char := ts.flatMap fun t => t.bracket?.toList

@[simp] theorem bracketsOf_nil : bracketsOf [] = [] := rfl

@[simp] theorem bracketsOf_cons (t : Token) (ts : List Token) :
    bracketsOf (t :: ts) = t.bracket?.toList ++ bracketsOf ts := by simp [bracketsOf]

@[simp] theorem bracketsOf_append (ts us : List Token) :
    bracketsOf (ts ++ us) = bracketsOf ts ++ bracketsOf us := by simp [bracketsOf]

/-- A token that stays as it is puts its bracket before those of the rest. -/
theorem Whole.brackets?_append {t : Token} {r : List Char} (h : t.Whole) (hb : t.StandsBefore r) :
    brackets? (t.text ++ r) = (brackets? r).map (t.bracket?.toList ++ ·) := by
  obtain ⟨c, s, ht, -⟩ := id h
  have hreach := (reach_append_eq_iff ht r).2 ⟨h, hb⟩
  rw [ht, List.cons_append, brackets?_cons hreach, List.drop_left, List.take_left, bracket?, ht]

theorem brackets?_textOf {o : Int} {ts : List Token} (h : IsScan o ts) :
    brackets? (textOf ts) = some (bracketsOf ts) := by
  induction ts generalizing o with
  | nil => rw [textOf_nil, brackets?, bracketsOf_nil]
  | cons t ts ih =>
    obtain ⟨-, hw, hb, hs⟩ := h
    rw [textOf_cons, hw.brackets?_append hb, ih hs, bracketsOf_cons]
    rfl

/-- A token that is no bracket is gone with all that it goes on over. -/
theorem RunsOver.brackets?_append {p : Char → Bool} {t : Token} (h : t.RunsOver p)
    (hk : ∀ text, t.kind.bracket? text = none) (r : List Char) :
    brackets? (t.text ++ r) = brackets? (r.dropWhile p) := by
  obtain ⟨c, s, ht, hreach⟩ := h
  rw [ht, List.cons_append, brackets?_cons (hreach r), hk, ← List.drop_drop, List.drop_left,
    drop_length_takeWhile]
  simp

end Token

/-! ## How a text ends -/

/-- What a text that is read by itself leaves open at its end. -/
inductive Ending where
  | closed
  | comment
  | literal (l : OpenLiteral)
  deriving DecidableEq, Repr

/-- How a text ends when it is read by itself. -/
def ending : List Char → Ending
  | [] => .closed
  | c :: r =>
    match reach c r with
    | .error l => .literal l
    | .ok (k, n) =>
      if n < r.length then ending (r.drop n) else if k = .comment then .comment else .closed
  termination_by s => s.length
  decreasing_by simp only [List.length_drop, List.length_cons]; omega

/-- What is left to read behind a word that ends so: a comment takes the rest of the line, and an
    open character literal the next character, which must be there. -/
def Ending.behind? : Ending → List Char → Option (List Char)
  | closed, r => some r
  | comment, r => some (r.dropWhile (· ≠ '\n'))
  | literal .char, _ :: r => some r
  | literal _, _ => none

/-! ## Words -/

/-- A token without delimiters is no bracket. -/
theorem bracket?_of_clear {c : Char} {r : List Char} {k : TokenKind} {n : Nat}
    (h : reach c r = .ok (k, n)) (hclear : ∀ x ∈ c :: r.take n, isDelimiter x = false) :
    k.bracket? (c :: r.take n) = none := by
  have hfits := fits_of_reach h
  cases k with
  | opener =>
    obtain ⟨b, hb⟩ := hfits
    obtain ⟨x, hx, hdel⟩ := b.ends_in_delimiter.1
    rw [hb] at hx
    rw [hclear x (List.mem_of_getLast? hx)] at hdel
    cases hdel
  | closer =>
    obtain ⟨b, hb, -⟩ := hfits
    obtain ⟨x, hx, hdel⟩ := b.ends_in_delimiter.2
    rw [hb, List.singleton_inj] at hx
    rw [← hx, hclear c List.mem_cons_self] at hdel
    cases hdel
  | mark | atom | string | char | comment | whitespace | newline => rfl

theorem Token.Whole.bracket?_of_clear {t : Token} (h : t.Whole)
    (hclear : ∀ x ∈ t.text, isDelimiter x = false) : t.bracket? = none := by
  obtain ⟨c, s, ht, hreach⟩ := h
  have hnone := FormEdit.bracket?_of_clear hreach
  rw [List.take_length, ← ht] at hnone
  exact hnone hclear

theorem stringReach?_succ (n : Nat) (r : List Char) :
    stringReach? (n + 1) r = (stringReach? n r).map (· + 1) := by
  fun_induction stringReach? n r with
  | case1 | case2 => rfl
  | case3 n d r ih => rw [stringReach?, ← ih]
  | case4 n r => rfl
  | case5 n c r h1 h2 hc ih => rw [stringReach?_cons (ne_backslash h1 h2), if_neg hc, ih]

/-- Behind `#` what opens something opens it all the same. -/
theorem brackets?_hash {d : Char} (h : d = '{' ∨ d = '(' ∨ d = '"') (r : List Char) :
    brackets? ('#' :: d :: r) = brackets? (d :: r) := by
  rcases h with rfl | rfl | rfl
  · rw [brackets?_cons (c := '#') (k := .opener) (n := 1) rfl,
      brackets?_cons (c := '{') (k := .opener) (n := 0) rfl]
    rfl
  · rw [brackets?_cons (c := '#') (k := .opener) (n := 1) rfl,
      brackets?_cons (c := '(') (k := .opener) (n := 0) rfl]
    rfl
  · have hblank : isSpacing '"' = false ∧ isSpacing '#' = false := by decide
    cases hn : stringReach? 0 r with
    | none =>
      have hmark : reach '"' r = .error .string := by simp [reach, hblank, hn]
      have hhash : reach '#' ('"' :: r) = .error .string := by
        simp [reach, hashReach, hblank, stringReach?_succ, hn]
      rw [brackets?_of_open hhash, brackets?_of_open hmark]
    | some n =>
      have hmark : reach '"' r = .ok (.string, n) := by simp [reach, hblank, hn]
      have hhash : reach '#' ('"' :: r) = .ok (.string, n + 1) := by
        simp [reach, hashReach, hblank, stringReach?_succ, hn]
      rw [brackets?_cons hhash, brackets?_cons hmark]
      rfl

/-- The brackets behind a word are those of what its ending leaves to be read. -/
theorem brackets?_word {x r : List Char} (hx : ∀ a ∈ x, isDelimiter a = false)
    (hr : ∀ d ∈ r.head?, isDelimiter d = true) :
    brackets? (x ++ r) = ((ending x).behind? r).bind brackets? := by
  fun_induction ending x with
  | case1 => rfl
  | case2 c s l hl =>
    have hquote : '"' ∉ c :: s := fun hmem => (Token.clear_of_not_isDelimiter (hx _ hmem)).1 rfl
    obtain ⟨rfl, rfl, rfl⟩ := open_of_reach hl hquote
    cases r with
    | nil =>
      rw [List.append_nil, brackets?_of_open hl]
      rfl
    | cons d r =>
      -- The delimiter is no letter or digit, so the literal has no other character.
      have hreach : reach '\\' (d :: r) = .ok (.char, 1) := by
        show Except.ok (TokenKind.char, if isAlphaNumeric d then 1 + atomReach r else 1) = _
        rw [if_neg (by simp [isAlphaNumeric_of_isDelimiter (hr d rfl)])]
      rw [List.singleton_append, brackets?_cons hreach]
      simp [TokenKind.bracket?, Ending.behind?]
  | case3 c s k n hk hlt ih =>
    have hreach : reach c (s ++ r) = .ok (k, n) :=
      (settled_reach c).append hk (by omega) r
    have hclear : ∀ a ∈ c :: s.take n, isDelimiter a = false := fun a ha =>
      hx a (by
        rcases List.mem_cons.1 ha with rfl | ha
        · exact List.mem_cons_self
        · exact List.mem_cons_of_mem _ (List.mem_of_mem_take ha))
    have hdrop : ∀ a ∈ s.drop n, isDelimiter a = false := fun a ha =>
      hx a (List.mem_cons_of_mem _ (List.mem_of_mem_drop ha))
    rw [List.cons_append, brackets?_cons hreach, List.take_append_of_le_length (by omega),
      List.drop_append_of_le_length (by omega), bracket?_of_clear hk hclear, ih hdrop]
    simp
  | case4 c s n hge hk =>
    obtain rfl : n = s.length := Nat.le_antisymm (by simpa using (settled_reach c).le hk) (by omega)
    have hwhole : (⟨.comment, c :: s, 0⟩ : Token).Whole := ⟨c, s, rfl, hk⟩
    exact (hwhole.runsOver_comment rfl).1.brackets?_append (fun _ => rfl) r
  | case5 c s k n hk hge hcomment =>
    -- The last token ends with the word, or is a `#` that goes on over one delimiter.
    obtain rfl : n = s.length := Nat.le_antisymm (by simpa using (settled_reach c).le hk) (by omega)
    have hwhole : (⟨k, c :: s, 0⟩ : Token).Whole := ⟨c, s, rfl, hk⟩
    have hstand : (⟨k, c :: s, 0⟩ : Token).StandsBefore r →
        brackets? (c :: s ++ r) = ((Ending.closed.behind? r).bind brackets?) := by
      intro hb
      rw [hwhole.brackets?_append hb, hwhole.bracket?_of_clear hx]
      simp [Ending.behind?]
    cases r with
    | nil => exact hstand (Token.standsBefore_nil _)
    | cons d q =>
      rcases hwhole.standsBefore_or_hash hcomment hx (hr d rfl) q with hb | ⟨htext, hopens⟩
      · exact hstand hb
      · cases htext
        exact brackets?_hash hopens q

/-! ## Delimiters by themselves -/

theorem brackets?_bracket {d : Char} (h : d ∈ ['(', '[', '{', ')', ']', '}']) (r : List Char) :
    brackets? (d :: r) = (brackets? r).map (d :: ·) := by
  have hreach : ∃ k, (k = .opener ∨ k = .closer) ∧ reach d r = .ok (k, 0) := by
    simp only [List.mem_cons, List.not_mem_nil, or_false] at h
    rcases h with rfl | rfl | rfl | rfl | rfl | rfl
    all_goals first | exact ⟨.opener, .inl rfl, rfl⟩ | exact ⟨.closer, .inr rfl, rfl⟩
  obtain ⟨k, hk, hreach⟩ := hreach
  rw [brackets?_cons hreach]
  rcases hk with rfl | rfl <;> rfl

theorem brackets?_dropSpacing (r : List Char) :
    brackets? (r.dropWhile isSpacing) = brackets? r := by
  cases r with
  | nil => rfl
  | cons c r =>
    cases hc : isSpacing c with
    | false => rw [List.dropWhile_cons_of_neg (by simp [hc])]
    | true =>
      rw [List.dropWhile_cons_of_pos hc, brackets?_cons (Token.reach_spacing hc r),
        drop_length_takeWhile]
      simp [TokenKind.bracket?]

/-- Blanks and line ends have no part in the brackets. -/
theorem brackets?_blank {d : Char} (h : isSpacing d = true ∨ d = '\n') (r : List Char) :
    brackets? (d :: r) = brackets? r := by
  rcases h with h | rfl
  · rw [← brackets?_dropSpacing, List.dropWhile_cons_of_pos h, brackets?_dropSpacing]
  · rw [brackets?_cons (Token.reach_newline r)]
    simp [TokenKind.bracket?]

/-- A token that is no mark and no comment puts its bracket before those of any text, or it is a
    word. -/
theorem Token.Whole.brackets?_append_or_clear {t : Token} (h : t.Whole) (hmark : t.kind ≠ .mark)
    (hcomment : t.kind ≠ .comment) (r : List Char) :
    brackets? (t.text ++ r) = (brackets? r).map (t.bracket?.toList ++ ·) ∨
      ∀ x ∈ t.text, isDelimiter x = false := by
  by_cases hb : t.StandsBefore r
  · exact .inl (h.brackets?_append hb)
  by_cases hblank : t.kind = .whitespace
  · have hnone : ∀ text, t.kind.bracket? text = none := fun _ => by rw [hblank]; rfl
    have hruns := (h.runsOver_whitespace hblank).1
    left
    rw [hruns.brackets?_append hnone, brackets?_dropSpacing, bracket?, hnone]
    simp
  · have hnewline : t.kind ≠ .newline := fun hk => hb (h.standsBefore_newline hk r)
    have htrivia : t.isTrivia = false := by
      rw [isTrivia]
      cases hk : t.kind <;> simp_all [TokenKind.isTrivia]
    simp only [StandsBefore, not_forall, Bool.not_eq_false] at hb
    obtain ⟨x, -, hx⟩ := hb
    exact .inr (h.clear_of_absorbs hmark htrivia hx)

end FormEdit
