import FormEdit.Proofs.Token.Shape

set_option autoImplicit false

/-! # A text and what is left of it behind its first line

When a comment takes in the first line of a text, the rest is scanned by itself. That may cut it in
other places than before, where a string goes over the end of the line. But it never comes to the
same words as the whole text, unless the line has none (`Token.blankLine_of_wordsOf`).

The two scans read the same characters. As long as they are out of step, one of them is in a string,
and the other reads what is in the string. When a string ends, the other scan opens one there or is
in a comment. Which of these happens can be seen from the string (`Token.hides`), so if both scans
came to the same words, it would be the same for the last string of each. But it is not. -/

namespace FormEdit

namespace Token

/-! ## Words -/

/-- The texts of the tokens that carry meaning. -/
def wordsOf (ts : List Token) : List (List Char) := (ts.filter fun t => !t.isTrivia).map text

@[simp] theorem wordsOf_nil : wordsOf [] = [] := rfl

theorem wordsOf_cons (t : Token) (ts : List Token) :
    wordsOf (t :: ts) = if t.isTrivia then wordsOf ts else t.text :: wordsOf ts := by
  cases h : t.isTrivia <;> simp [wordsOf, h]

theorem wordsOf_string {t : Token} (h : t.kind = .string) (ts : List Token) :
    wordsOf (t :: ts) = t.text :: wordsOf ts := by
  rw [wordsOf_cons, if_neg (by simp [isTrivia, h, TokenKind.isTrivia])]

theorem wordsOf_comment {t : Token} (h : t.kind = .comment) (ts : List Token) :
    wordsOf (t :: ts) = wordsOf ts := by
  rw [wordsOf_cons, if_pos (by simp [isTrivia, h, TokenKind.isTrivia])]

@[simp] theorem wordsOf_append (ts us : List Token) :
    wordsOf (ts ++ us) = wordsOf ts ++ wordsOf us := by
  simp [wordsOf]

theorem wordsOf_trivia {ts : List Token} (h : ∀ t ∈ ts, t.isTrivia = true) : wordsOf ts = [] := by
  induction ts with
  | nil => rfl
  | cons t ts ih => rw [wordsOf_cons, if_pos (h t (by simp)), ih fun u hu => h u (by simp [hu])]

theorem isTrivia_of_wordsOf {t : Token} (h : wordsOf [t] = []) : t.isTrivia = true := by
  rw [wordsOf_cons] at h
  split at h
  · assumption
  · cases h

@[simp] theorem wordsOf_map_shift (k : Int) (ts : List Token) :
    wordsOf (ts.map (shift k)) = wordsOf ts := by
  induction ts with
  | nil => rfl
  | cons t ts ih =>
    have ht : (t.shift k).isTrivia = t.isTrivia := rfl
    rw [List.map_cons, wordsOf_cons, wordsOf_cons, ht, text_shift, ih]

/-- Words are those of the text. -/
theorem wordsOf_eq_of_textOf_eq {o o' : Int} {ts us : List Token} (h : IsScan o ts)
    (h' : IsScan o' us) (htext : textOf ts = textOf us) : wordsOf ts = wordsOf us := by
  have := h.moved.unique h'.moved (by rw [textOf_map_shift, textOf_map_shift, htext])
  rw [← wordsOf_map_shift (-o) ts, this, wordsOf_map_shift]

/-! ## What a string hides from another scan -/

/-- Whether a scan of a text reads its last character in a comment. -/
def covered : List Char → Bool
  | [] => false
  | c :: r =>
    match reach c r with
    | .error _ => false
    | .ok (k, n) => if n < r.length then covered (r.drop n) else k = .comment
  termination_by s => s.length
  decreasing_by simp only [List.length_drop, List.length_cons]; omega

/-- What stands behind the last line feed of a text. -/
def lastLine : List Char → List Char
  | [] => []
  | c :: s => if '\n' ∈ c :: s then lastLine s else c :: s

/-- What stands behind the opening mark of a string. -/
def inside? : List Char → Option (List Char)
  | '"' :: s => some s
  | '#' :: '"' :: s => some s
  | _ => none

/-- Whether another scan is in a comment behind a word, if it was so before the word (`p`) or had a
    cut behind the opening mark. Only a string changes that. -/
def hides (p : Bool) (w : List Char) : Bool :=
  match inside? w with
  | none => p
  | some s => p && decide ('\n' ∉ s) || covered (lastLine s)

theorem covered_append {t : Token} {s : List Char} (hw : t.Whole) (hb : t.StandsBefore s)
    (hs : s ≠ []) : covered (t.text ++ s) = covered s := by
  obtain ⟨c, r, ht, -⟩ := id hw
  have hreach := (reach_append_eq_iff ht s).2 ⟨hw, hb⟩
  have hlt : r.length < (r ++ s).length := by
    have := List.length_pos_iff.2 hs
    rw [List.length_append]
    omega
  rw [ht, List.cons_append, covered]
  simp only [hreach, if_pos hlt, List.drop_left]

/-- A comment that goes on to the end covers it. -/
theorem covered_comment {t : Token} {s r : List Char} (hw : t.Whole) (hk : t.kind = .comment)
    (ht : t.text = s ++ r) (hs : s.getLast? = some '"') : covered s = true := by
  have hline := (hw.runsOver_comment hk).2
  obtain ⟨c, s', hc, hreach⟩ := hw
  have hfits := fits_of_reach hreach
  rw [hk] at hfits
  cases s with
  | nil => cases hs
  | cons d s =>
    rw [hc, List.cons_append, List.cons.injEq] at ht
    obtain ⟨rfl, rfl⟩ := ht
    have hrun : lineReach s = s.length := by
      rw [lineReach, List.takeWhile_eq_self_iff.2]
      intro x hx
      exact hline x (by simp [hc, hx])
    have hopen : c = ';' ∨ c = '#' ∧ s.head? = some '!' := by
      rcases hfits.1 with hc | ⟨rfl, hhead⟩
      · exact .inl hc
      · -- A mark stands last, so the character behind the first one is there.
        cases s with
        | nil => exact absurd hs (by decide)
        | cons e s => exact .inr ⟨rfl, hhead⟩
    rw [covered]
    simp [reach_comment hopen, hrun]

theorem covered_mark {m : List Char} (hm : m = [] ∨ m = ['#']) : covered (m ++ ['"']) = false := by
  rcases hm with rfl | rfl
  · rw [List.nil_append, covered]
    rfl
  · rw [List.singleton_append, covered]
    rfl

theorem lastLine_of_not_mem {s : List Char} (h : '\n' ∉ s) : lastLine s = s := by
  cases s with
  | nil => rfl
  | cons c s => rw [lastLine, if_neg h]

theorem lastLine_append (x : List Char) {s : List Char} (h : '\n' ∈ s) :
    lastLine (x ++ s) = lastLine s := by
  induction x with
  | nil => rfl
  | cons c x ih => rw [List.cons_append, lastLine, if_pos (by simp [h]), ih]

theorem lastLine_append_newline (x s : List Char) : lastLine (x ++ '\n' :: s) = lastLine s := by
  rw [lastLine_append x (by simp), lastLine, if_pos (by simp)]

theorem inside?_eq_some_iff {w s : List Char} :
    inside? w = some s ↔ ∃ m, (m = [] ∨ m = ['#']) ∧ w = m ++ '"' :: s := by
  constructor
  · intro h
    unfold inside? at h
    split at h
    · cases h
      exact ⟨[], .inl rfl, rfl⟩
    · cases h
      exact ⟨['#'], .inr rfl, rfl⟩
    · cases h
  · rintro ⟨m, rfl | rfl, rfl⟩ <;> rfl

theorem hides_string {m : List Char} (hm : m = [] ∨ m = ['#']) (p : Bool) (s : List Char) :
    hides p (m ++ '"' :: s) = (p && decide ('\n' ∉ s) || covered (lastLine s)) := by
  rcases hm with rfl | rfl <;> rfl

/-- Only a string has the mark of one. -/
theorem hides_other {t : Token} (h : t.Whole) (hk : t.kind ≠ .string) (p : Bool) :
    hides p t.text = p := by
  have hnone : inside? t.text = none := by
    refine Option.eq_none_iff_forall_ne_some.2 fun s hs => ?_
    obtain ⟨m, hm, ht⟩ := inside?_eq_some_iff.1 hs
    have hmem : '"' ∈ t.text := by simp [ht]
    cases h.shape with
    | comment kind =>
      obtain ⟨c, r, hc, hreach⟩ := h
      have hfits := fits_of_reach hreach
      rw [kind] at hfits
      rw [ht] at hc
      rcases hm with rfl | rfl
      · cases hc
        rcases hfits.1 with hc | ⟨hc, -⟩ <;> exact absurd hc (by decide)
      · cases hc
        rcases hfits.1 with hc | ⟨-, hhead⟩
        · exact absurd hc (by decide)
        · exact absurd (Option.some.inj hhead) (by decide)
    | string kind => exact hk kind
    | char _ text =>
      rw [text] at ht
      rcases hm with rfl | rfl <;> simp at ht
    | run _ _ _ clear => exact absurd rfl (clear _ hmem).1
    | plain _ _ clear => exact absurd rfl (clear _ hmem).1
  rw [hides, hnone]

/-- A string on one line hides nothing that was not hidden before. -/
theorem hides_line {w : List Char} (h : '\n' ∉ w) : hides true w = true := by
  rw [hides]
  split
  · rfl
  · next s hs =>
    have hns : '\n' ∉ s := by
      intro hmem
      obtain ⟨m, -, rfl⟩ := inside?_eq_some_iff.1 hs
      exact h (by simp [hmem])
    simp [hns]

/-- Words that are no strings change nothing. -/
theorem foldl_hides_other {ts : List Token} (h : ∀ t ∈ ts, t.Whole)
    (hk : ∀ t ∈ ts, t.kind ≠ .string) (p : Bool) : (wordsOf ts).foldl hides p = p := by
  induction ts with
  | nil => rfl
  | cons t ts ih =>
    have hrest := ih (fun u hu => h u (by simp [hu])) fun u hu => hk u (by simp [hu])
    rw [wordsOf_cons]
    split
    · exact hrest
    · rw [List.foldl_cons, hides_other (h t (by simp)) (hk t (by simp)), hrest]

/-- A line feed in a token that is no string ends the token. -/
theorem Whole.eq_append_newline {t : Token} (h : t.Whole) (hk : t.kind ≠ .string)
    (hnl : '\n' ∈ t.text) : ∃ x, t.text = x ++ ['\n'] ∧ '\n' ∉ x := by
  cases h.shape with
  | comment kind =>
    have := (h.runsOver_comment kind).2 _ hnl
    simp at this
  | string kind => exact absurd kind hk
  | @char c _ text =>
    have hc : '\n' = c := by simpa [text] using hnl
    exact ⟨['\\'], by rw [text, ← hc]; rfl, by decide⟩
  | run _ _ _ clear => exact absurd rfl (clear _ hnl).2
  | plain _ _ _ line => exact ⟨[], by rw [(line hnl).1]; rfl, by simp⟩

/-- What is before a cut does not tell whether the end is covered. -/
theorem covered_lastLine_append {t : Token} {s : List Char} (h : t.Whole) (hk : t.kind ≠ .string)
    (hb : t.StandsBefore s) (hs : s ≠ []) :
    covered (lastLine (t.text ++ s)) = covered (lastLine s) := by
  by_cases hns : '\n' ∈ s
  · rw [lastLine_append _ hns]
  · by_cases hnt : '\n' ∈ t.text
    · obtain ⟨x, hx, -⟩ := h.eq_append_newline hk hnt
      rw [hx, List.append_assoc, List.singleton_append, lastLine_append_newline]
    · rw [lastLine_of_not_mem hns, lastLine_of_not_mem (by simp [hns, hnt]),
        covered_append h hb hs]

/-! ## Lists of words that differ -/

/-- Whether two lists of words differ before the words that both end with: what the words before
    those hide is different in the end, or the last of them is. -/
def Apart (p : Bool) (as : List (List Char)) (q : Bool) (bs : List (List Char)) : Prop :=
  ∃ as' bs' ws, as = as' ++ ws ∧ bs = bs' ++ ws ∧
    (as'.foldl hides p ≠ bs'.foldl hides q ∨ ∃ a ∈ as'.getLast?, ∃ b ∈ bs'.getLast?, a ≠ b)

theorem Apart.symm {p q : Bool} {as bs : List (List Char)} (h : Apart p as q bs) :
    Apart q bs p as := by
  obtain ⟨as', bs', ws, has, hbs, h⟩ := h
  refine ⟨bs', as', ws, hbs, has, ?_⟩
  rcases h with h | ⟨a, ha, b, hb, hne⟩
  · exact .inl h.symm
  · exact .inr ⟨b, hb, a, ha, hne.symm⟩

theorem Apart.append {p q : Bool} {as bs : List (List Char)} (xs : List (List Char))
    (h : Apart (xs.foldl hides p) as q bs) : Apart p (xs ++ as) q bs := by
  obtain ⟨as', bs', ws, has, hbs, h⟩ := h
  refine ⟨xs ++ as', bs', ws, by rw [has, List.append_assoc], hbs, ?_⟩
  rcases h with h | ⟨a, ha, b, hb, hne⟩
  · exact .inl (by rwa [List.foldl_append])
  · exact .inr ⟨a, by simp [Option.mem_def.1 ha], b, hb, hne⟩

theorem Apart.cons {p q : Bool} {a : List Char} {as bs : List (List Char)}
    (h : Apart (hides p a) as q bs) : Apart p (a :: as) q bs :=
  Apart.append [a] h

/-- Words are not apart from themselves, nor from themselves behind words that hide nothing. -/
theorem not_apart_append {p : Bool} {xs as : List (List Char)} (hxs : xs.foldl hides p = p) :
    ¬ Apart p (xs ++ as) p as := by
  rintro ⟨as', bs', ws, has, hbs, h⟩
  rw [hbs, ← List.append_assoc, List.append_cancel_right_eq] at has
  rw [← has] at h
  rcases h with h | ⟨a, ha, b, hb, hne⟩
  · rw [List.foldl_append, hxs] at h
    exact h rfl
  · rw [List.getLast?_append, Option.mem_def.1 hb, Option.some_or] at ha
    exact hne (Option.mem_some_iff.1 ha).symm

/-! ## A scan that reads what is in a string -/

/-- Whether a text, at a cut of a scan, is the rest of a string that another scan is in. That may
    have the character behind the cut still to come, because of a backslash before it. -/
def Enters (s : List Char) : Prop := Closes s ∨ ∃ d r, s = d :: r ∧ d ≠ '\\' ∧ Closes r

theorem Enters.getLast? {s : List Char} (h : Enters s) : s.getLast? = some '"' := by
  rcases h with h | ⟨d, r, rfl, -, h⟩
  · exact h.getLast?
  · rw [List.getLast?_cons, h.getLast?]
    rfl

theorem Enters.ne_nil {s : List Char} (h : Enters s) : s ≠ [] := by
  rintro rfl
  cases h.getLast?

/-- A token that ends with a backslash goes on over another one, unless it is a literal of two. -/
theorem Whole.eq_of_backslash {t : Token} {s : List Char} (h : t.Whole)
    (hlast : t.text.getLast? = some '\\') (hb : t.StandsBefore ('\\' :: s)) :
    t.text = ['\\', '\\'] := by
  have hmem := List.mem_of_getLast? hlast
  cases h.shape with
  | comment kind =>
    have := ((h.runsOver_comment kind).1.standsBefore_iff _).1 hb '\\' rfl
    simp at this
  | @string m s' _ _ text closes =>
    obtain ⟨d, r, rfl⟩ := List.exists_cons_of_ne_nil closes.ne_nil
    rw [text, List.getLast?_append, List.getLast?_cons_cons, closes.getLast?] at hlast
    simp at hlast
  | @char c _ text =>
    have hc : c = '\\' := by simpa [text] using hlast
    rw [text, hc]
  | run _ _ runs _ =>
    have := (runs.standsBefore_iff _).1 hb '\\' rfl
    exact absurd this (by decide)
  | plain _ _ clear => exact absurd rfl (clear _ hmem).2

/-- Behind a token the rest is entered in the same way. -/
theorem Enters.behind {t : Token} {s r : List Char} (h : Enters (t.text ++ s)) (hw : t.Whole)
    (hb : t.StandsBefore (s ++ r)) (hs : s ≠ []) : Enters s := by
  -- A backslash at the end of the token could have a backslash still to come only behind another.
  have hnext : ∀ d s', s = d :: s' → t.text.getLast? = some '\\' → t.text ≠ ['\\', '\\'] →
      d ≠ '\\' := by
    rintro d s' rfl hlast hne rfl
    exact hne (hw.eq_of_backslash hlast hb)
  rcases h with h | ⟨d, x, hx, hd, h⟩
  · by_cases htwo : t.text = ['\\', '\\']
    · rw [htwo] at h
      cases h with
      | escape rest => exact .inl rest
      | char plain => exact absurd rfl plain
    · rcases h.behind hs with hr | ⟨hlast, e, s', rfl, hr⟩
      · exact .inl hr
      · exact .inr ⟨e, s', rfl, hnext e s' rfl hlast htwo, hr⟩
  · obtain ⟨e, y, hy⟩ := List.exists_cons_of_ne_nil hw.text_ne_nil
    rw [hy, List.cons_append, List.cons.injEq] at hx
    obtain ⟨rfl, rfl⟩ := hx
    rcases h.behind hs with hr | ⟨hlast, f, s', rfl, hr⟩
    · exact .inl hr
    · refine .inr ⟨f, s', rfl, hnext f s' rfl ?_ ?_, hr⟩
      · rw [hy, List.getLast?_cons, hlast]
        rfl
      · intro htwo
        rw [hy] at htwo
        exact hd (List.cons.inj htwo).1

/-- A string that a scan opens in another one, or at its end, ends with it or starts at the mark
    that closes the other one. -/
theorem Enters.string {m x s y r : List Char} (h : Enters s) (hx : Closes x)
    (hm : m = [] ∨ m = ['#']) (heq : m ++ '"' :: x ++ y = s ++ r) :
    s = m ++ ['"'] ∧ r = x ++ y ∨ s = m ++ '"' :: x ∧ r = y := by
  obtain ⟨d, s, rfl⟩ := List.exists_cons_of_ne_nil h.ne_nil
  rcases hm with rfl | rfl
  · simp only [List.nil_append, List.cons_append, List.cons.injEq] at heq ⊢
    obtain ⟨rfl, heq⟩ := heq
    rcases h with h | ⟨e, s', hs, -, h⟩
    · cases h with
      | mark => exact .inl ⟨⟨rfl, rfl⟩, heq.symm⟩
      | char _ inner _ => exact absurd rfl inner
    · cases hs
      obtain rfl := hx.append_inj h heq
      exact .inr ⟨⟨rfl, rfl⟩, (List.append_cancel_left heq).symm⟩
  · simp only [List.cons_append, List.nil_append, List.cons.injEq] at heq ⊢
    obtain ⟨rfl, heq⟩ := heq
    have hs : Closes s := by
      rcases h with h | ⟨e, s', hs, -, h⟩
      · cases h with
        | char _ _ rest => exact rest
      · cases hs
        exact h
    obtain ⟨e, s, rfl⟩ := List.exists_cons_of_ne_nil hs.ne_nil
    rw [List.cons_append, List.cons.injEq] at heq
    obtain ⟨rfl, heq⟩ := heq
    cases hs with
    | mark => exact .inl ⟨⟨rfl, rfl⟩, heq.symm⟩
    | char _ inner _ => exact absurd rfl inner

/-- How a scan of the text `s ++ r` comes to the end of `s`, which is the rest of a string that
    another scan is in: it opens a string there, or is in a comment, or a string ends there that it
    has opened behind a backslash. -/
inductive Meets (s r : List Char) (ts : List Token) : Prop
  | opens (us : List Token) {vs : List Token} {t : Token} {m x : List Char}
    (eq : ts = us ++ t :: vs) (before : ∀ u ∈ us, u.kind ≠ .string) (kind : t.kind = .string)
    (mark : m = [] ∨ m = ['#']) (text : t.text = m ++ '"' :: x) (closes : Closes x)
    (rest : r = x ++ textOf vs) (shown : covered (lastLine s) = false)
  | covers (us : List Token) {vs : List Token} {t : Token} (eq : ts = us ++ t :: vs)
    (before : ∀ u ∈ us, u.kind ≠ .string) (kind : t.kind = .comment)
    (rest : textOf vs = r.dropWhile (· ≠ '\n')) (hidden : covered (lastLine s) = true)
  | ends (us : List Token) {vs : List Token} {t : Token} (eq : ts = us ++ t :: vs)
    (before : ∀ u ∈ us, u.kind ≠ .string) (kind : t.kind = .string) (rest : r = textOf vs)
    (short : t.text.length ≤ s.length)

theorem Meets.cons {s r : List Char} {ts : List Token} {t : Token} (h : Meets s r ts)
    (hk : t.kind ≠ .string) (hc : covered (lastLine (t.text ++ s)) = covered (lastLine s)) :
    Meets (t.text ++ s) r (t :: ts) := by
  have hcons : ∀ us : List Token, (∀ u ∈ us, u.kind ≠ .string) →
      ∀ u ∈ t :: us, u.kind ≠ .string := by
    intro us hus u hu
    rcases List.mem_cons.1 hu with rfl | hu
    · exact hk
    · exact hus u hu
  cases h with
  | opens us eq before kind mark text closes rest shown =>
    exact .opens (t :: us) (by rw [eq, List.cons_append]) (hcons _ before) kind mark text closes
      rest (by rw [hc, shown])
  | covers us eq before kind rest hidden =>
    exact .covers (t :: us) (by rw [eq, List.cons_append]) (hcons _ before) kind rest
      (by rw [hc, hidden])
  | ends us eq before kind rest short =>
    refine .ends (t :: us) (by rw [eq, List.cons_append]) (hcons _ before) kind rest ?_
    rw [List.length_append]
    omega

/-- Behind a comment comes the end of the line. -/
theorem Whole.rest_of_comment {t : Token} {s z r : List Char} (h : t.Whole) (hk : t.kind = .comment)
    (ht : t.text = s ++ z) (hb : t.StandsBefore r) : r = (z ++ r).dropWhile (· ≠ '\n') := by
  obtain ⟨hruns, hline⟩ := h.runsOver_comment hk
  have hz : ∀ x ∈ z, decide (x ≠ '\n') = true := fun x hx => hline x (by simp [ht, hx])
  have hstop := (hruns.standsBefore_iff r).1 hb
  rw [List.dropWhile_append_of_pos hz]
  cases r with
  | nil => rfl
  | cons c r => rw [List.dropWhile_cons_of_neg (by simpa using hstop)]

/-- Of the tokens that are no strings, only a comment goes on over the end of a string. -/
theorem Meets.of_whole {s z : List Char} {ts : List Token} {t : Token} (hs : Enters s)
    (hw : t.Whole) (hk : t.kind ≠ .string) (hb : t.StandsBefore (textOf ts))
    (ht : t.text = s ++ z) : Meets s (z ++ textOf ts) (t :: ts) := by
  have hmem : '"' ∈ t.text := by simp [ht, List.mem_of_getLast? hs.getLast?]
  cases hw.shape with
  | comment kind =>
    have hns : '\n' ∉ s := fun hx => by
      simpa using (hw.runsOver_comment kind).2 '\n' (by simp [ht, hx])
    exact .covers [] rfl (by simp) kind (hw.rest_of_comment kind ht hb)
      (by rw [lastLine_of_not_mem hns, covered_comment hw kind ht hs.getLast?])
  | string kind => exact absurd kind hk
  | char _ text =>
    -- The mark would be behind a backslash, which takes it in.
    exfalso
    obtain ⟨d, s, rfl⟩ := List.exists_cons_of_ne_nil hs.ne_nil
    rw [text, List.cons_append, List.cons.injEq] at ht
    obtain ⟨rfl, ht⟩ := ht
    rcases hs with h | ⟨e, r, hr, he, -⟩
    · cases h with
      | escape rest =>
        obtain ⟨f, s, rfl⟩ := List.exists_cons_of_ne_nil rest.ne_nil
        simp at ht
      | char plain => exact plain rfl
    · cases hr
      exact he rfl
  | run _ _ _ clear => exact absurd rfl (clear _ hmem).1
  | plain _ _ clear => exact absurd rfl (clear _ hmem).1

theorem meets {o : Int} {ts : List Token} {s r : List Char} (h : IsScan o ts) (hs : Enters s)
    (htext : textOf ts = s ++ r) : Meets s r ts := by
  induction ts generalizing o s with
  | nil => exact absurd (List.append_eq_nil_iff.1 htext.symm).1 hs.ne_nil
  | cons t ts ih =>
    obtain ⟨-, hw, hb, hts⟩ := h
    rw [textOf_cons] at htext
    by_cases hk : t.kind = .string
    · obtain ⟨m, x, mark, text, closes⟩ := hw.text_of_string hk
      rw [text] at htext
      rcases hs.string closes mark htext with ⟨rfl, rfl⟩ | ⟨rfl, rfl⟩
      · have hns : '\n' ∉ m ++ ['"'] := by rcases mark with rfl | rfl <;> decide
        exact .opens [] rfl (by simp) hk mark text closes rfl
          (by rw [lastLine_of_not_mem hns, covered_mark mark])
      · exact .ends [] rfl (by simp) hk rfl (by rw [text])
    · rcases List.append_eq_append_iff.1 htext with ⟨s', rfl, hr⟩ | ⟨z, hz, rfl⟩
      · cases s' with
        | nil =>
          rw [List.append_nil] at hs ⊢
          rw [List.nil_append] at hr
          have := Meets.of_whole (z := []) hs hw hk hb (List.append_nil _).symm
          rwa [List.nil_append, hr] at this
        | cons d s' =>
          have hb' : t.StandsBefore (d :: s' ++ r) := hr ▸ hb
          have hcov := covered_lastLine_append hw hk (standsBefore_of_append hb') (by simp)
          exact (ih hts (hs.behind hw hb' (by simp)) hr).cons hk hcov
      · exact .of_whole hs hw hk hb hz

/-! ## A scan that starts behind the first line -/

theorem dropLine_of_not_mem {x : List Char} (h : '\n' ∉ x) (s : List Char) :
    (x ++ s).dropWhile (· ≠ '\n') = s.dropWhile (· ≠ '\n') := by
  refine List.dropWhile_append_of_pos fun c hc => ?_
  rw [decide_eq_true_eq]
  rintro rfl
  exact h hc

theorem dropLine_newline (s : List Char) : ('\n' :: s).dropWhile (· ≠ '\n') = '\n' :: s := rfl

/-- A scan of a text that starts with a line feed has that as its first token. -/
theorem exists_newline {o : Int} {us : List Token} {r : List Char} (h : IsScan o us)
    (htext : textOf us = '\n' :: r) :
    ∃ u us', us = u :: us' ∧ textOf us' = r ∧ wordsOf us' = wordsOf us ∧
      ∃ o', IsScan o' us' := by
  cases us with
  | nil => cases htext
  | cons u us =>
    obtain ⟨-, ⟨c, s, hu, hreach⟩, -, hus⟩ := h
    rw [textOf_cons, hu, List.cons_append, List.cons.injEq] at htext
    obtain ⟨rfl, htext⟩ := htext
    rw [reach_newline, Except.ok.injEq, Prod.mk.injEq] at hreach
    obtain rfl := List.eq_nil_of_length_eq_zero hreach.2.symm
    have htriv : u.isTrivia = true := by
      rw [isTrivia, ← hreach.1]
      rfl
    exact ⟨u, us, rfl, htext, by rw [wordsOf_cons, if_pos htriv], _, hus⟩

/-- How a scan comes to the end of the first line, behind which another scan starts: both have a cut
    behind it, or the first one is in a string. -/
inductive Crosses (ts us : List Token) : Prop
  | meets (ws : List (List Char)) (words : wordsOf ts = ws ++ wordsOf us)
    (hidden : ws.foldl hides true = true) (blank : ws = [] → blankLine ts = true)
  | inside (ws : List (List Char)) {vs us' : List Token} {t : Token} {m x s : List Char}
    (words : wordsOf ts = ws ++ t.text :: wordsOf vs) (words' : wordsOf us = wordsOf us')
    (hidden : ws.foldl hides true = true) (mark : m = [] ∨ m = ['#'])
    (text : t.text = m ++ '"' :: (x ++ '\n' :: s)) (closes : Closes s)
    (scan : ∃ o, IsScan o vs) (scan' : ∃ o, IsScan o us') (rest : textOf us' = s ++ textOf vs)
    (short : s.length + (textOf vs).length < (textOf ts).length)

/-- A string that goes over the end of the line. -/
theorem Crosses.of_string {o o' : Int} {t : Token} {ts us : List Token} (hw : t.Whole)
    (hk : t.kind = .string) (hnl : '\n' ∈ t.text) (hts : IsScan o ts) (hus : IsScan o' us)
    (htext : textOf us = (t.text ++ textOf ts).dropWhile (· ≠ '\n')) : Crosses (t :: ts) us := by
  obtain ⟨m, y, mark, text, closes⟩ := hw.text_of_string hk
  have hy : '\n' ∈ y := by
    rw [text] at hnl
    rcases mark with rfl | rfl <;> simpa using hnl
  obtain ⟨x, s, rfl, hx⟩ := List.eq_append_cons_of_mem hy
  have hmx : '\n' ∉ m ++ '"' :: x := by
    rcases mark with rfl | rfl <;> simpa using hx
  have heq : t.text ++ textOf ts = m ++ '"' :: x ++ ('\n' :: (s ++ textOf ts)) := by
    simp [text]
  rw [heq, dropLine_of_not_mem hmx, dropLine_newline] at htext
  obtain ⟨u, us', rfl, hrest, hwords, hus'⟩ := exists_newline hus htext
  refine .inside [] ?_ hwords.symm rfl mark text closes.behind_newline ⟨_, hts⟩ hus' hrest ?_
  · rw [wordsOf_string hk, List.nil_append]
  · rw [textOf_cons, text]
    simp
    omega

/-- Any other token that has the end of the line in it. -/
theorem Crosses.of_newline {o o' : Int} {t : Token} {ts us : List Token} (hw : t.Whole)
    (hk : t.kind ≠ .string) (hnl : '\n' ∈ t.text) (hts : IsScan o ts) (hus : IsScan o' us)
    (htext : textOf us = (t.text ++ textOf ts).dropWhile (· ≠ '\n')) : Crosses (t :: ts) us := by
  obtain ⟨x, hx, hnx⟩ := hw.eq_append_newline hk hnl
  rw [hx, List.append_assoc, dropLine_of_not_mem hnx, List.singleton_append,
    dropLine_newline] at htext
  obtain ⟨u, us', rfl, hrest, hwords, _, hus'⟩ := exists_newline hus htext
  have hsame := wordsOf_eq_of_textOf_eq hts hus' hrest.symm
  refine .meets (wordsOf [t]) ?_ ?_ fun hblank => ?_
  · rw [← hwords, ← hsame, ← wordsOf_append, List.singleton_append]
  · exact foldl_hides_other (by simpa using hw) (by simpa using hk) true
  · have htriv := isTrivia_of_wordsOf hblank
    have hkind : t.kind = .newline := by
      by_contra hkind
      simpa using hw.ne_newline htriv hkind _ hnl
    simp [blankLine, hkind]

/-- A token before the end of the line. -/
theorem Crosses.cons {t : Token} {ts us : List Token} (h : Crosses ts us) (hnl : '\n' ∉ t.text) :
    Crosses (t :: ts) us := by
  have hword : (wordsOf [t]).foldl hides true = true := by
    rw [wordsOf_cons]
    split
    · rfl
    · exact hides_line hnl
  cases h with
  | meets ws words hidden blank =>
    refine .meets (wordsOf [t] ++ ws) ?_ ?_ fun hblank => ?_
    · rw [List.append_assoc, ← words, ← wordsOf_append, List.singleton_append]
    · rw [List.foldl_append, hword, hidden]
    · obtain ⟨hblank, hws⟩ := List.append_eq_nil_iff.1 hblank
      simp [blankLine, isTrivia_of_wordsOf hblank, blank hws]
  | inside ws words words' hidden mark text closes scan scan' rest short =>
    refine .inside (wordsOf [t] ++ ws) ?_ words' ?_ mark text closes scan scan' rest ?_
    · rw [List.append_assoc, ← words, ← wordsOf_append, List.singleton_append]
    · rw [List.foldl_append, hword, hidden]
    · rw [textOf_cons, List.length_append]
      omega

theorem crosses {o o' : Int} {ts us : List Token} (h : IsScan o ts) (h' : IsScan o' us)
    (htext : textOf us = (textOf ts).dropWhile (· ≠ '\n')) : Crosses ts us := by
  induction ts generalizing o with
  | nil =>
    have hus : wordsOf us = wordsOf [] := wordsOf_eq_of_textOf_eq h' h htext
    exact .meets [] hus.symm rfl fun _ => rfl
  | cons t ts ih =>
    obtain ⟨-, hw, -, hts⟩ := h
    rw [textOf_cons] at htext
    by_cases hnl : '\n' ∈ t.text
    · by_cases hk : t.kind = .string
      · exact .of_string hw hk hnl hts h' htext
      · exact .of_newline hw hk hnl hts h' htext
    · rw [dropLine_of_not_mem hnl] at htext
      exact (ih hts htext).cons hnl

/-! ## Two scans that are out of step -/

/-- While one scan is in a string `u`, with `s` and `ts` to come, and another has a cut before `s`,
    the words to come are apart. -/
theorem apart {o o' : Int} {s u : List Char} {os ts : List Token} {p : Bool} (n : Nat)
    (hn : s.length + (textOf ts).length < n) (hs : Closes s) (hos : IsScan o os)
    (hts : IsScan o' ts) (htext : textOf os = s ++ textOf ts)
    (hu : hides p u = covered (lastLine s)) (hlen : s.length < u.length) :
    Apart false (wordsOf os) p (u :: wordsOf ts) := by
  -- The induction is on the text that is left, at each place where one scan comes into a string.
  induction n generalizing o o' s u os ts p with
  | zero => omega
  | succ n ih =>
    have hpos := List.length_pos_iff.2 hs.ne_nil
    cases meets hos (.inl hs) htext with
    | @opens us vs t m x eq before kind mark text closes rest shown =>
      obtain ⟨hus, hvs⟩ := isScan_append.1 (eq ▸ hos)
      have hx : hides false t.text = covered (lastLine x) := by
        rw [text, hides_string mark, Bool.false_and, Bool.false_or]
      have hrest := congrArg List.length rest
      rw [List.length_append] at hrest
      -- The two scans change their parts.
      have hapart := ih (by omega) closes hts hvs.1.2.2.2 rest hx (by simp [text]; omega)
      rw [eq, wordsOf_append, wordsOf_string kind]
      refine Apart.append _ ?_
      rw [foldl_hides_other hus.whole before]
      refine (Apart.cons ?_).symm
      rw [hu, shown]
      exact hapart
    | @covers us vs t eq before kind rest hidden =>
      obtain ⟨hus, hvs⟩ := isScan_append.1 (eq ▸ hos)
      have hwords : wordsOf os = wordsOf us ++ wordsOf vs := by
        rw [eq, wordsOf_append, wordsOf_comment kind]
      have hout := foldl_hides_other hus.whole before false
      cases crosses hts hvs.1.2.2.2 rest with
      | @meets ws words hidden' _ =>
        -- From here on both scans go the same way, but only the words of one hide anything.
        refine ⟨wordsOf us, u :: ws, wordsOf vs, hwords, by rw [words, List.cons_append], .inl ?_⟩
        rw [hout, List.foldl_cons, hu, hidden, hidden']
        decide
      | @inside ws js us' v m x s' words words' hidden' mark text closes scan scan' rest' short =>
        obtain ⟨_, hjs⟩ := scan
        obtain ⟨_, hus'⟩ := scan'
        have hv : hides true v.text = covered (lastLine s') := by
          rw [text, hides_string mark, lastLine_append_newline]
          simp
        have hapart := ih (by omega) closes hus' hjs rest' hv (by simp [text]; omega)
        rw [hwords, words', words]
        refine Apart.append _ ?_
        rw [hout]
        refine (Apart.cons ?_).symm
        rw [hu, hidden]
        refine Apart.append _ ?_
        rw [hidden']
        exact hapart.symm
    | @ends us vs t eq before kind rest short =>
      obtain ⟨-, ⟨-, -, -, hvs⟩, -⟩ := isScan_append.1 (eq ▸ hos)
      have hne : t.text ≠ u := by
        rintro rfl
        omega
      refine ⟨wordsOf us ++ [t.text], [u], wordsOf vs, ?_, ?_, .inr ⟨_, by simp, _, by simp, hne⟩⟩
      · rw [eq, wordsOf_append, wordsOf_string kind, List.append_assoc, List.singleton_append]
      · rw [wordsOf_eq_of_textOf_eq hts hvs rest, List.singleton_append]

/-- A text and what is left of it behind its first line do not have the same words, if the line has
    any: not even where the words of the rest are those behind others that hide nothing. -/
theorem blankLine_of_wordsOf {o o' : Int} {ts us : List Token} {ws : List (List Char)}
    (h : IsScan o ts) (h' : IsScan o' us) (htext : textOf us = (textOf ts).dropWhile (· ≠ '\n'))
    (hws : ws.foldl hides false = false) (hwords : wordsOf us = ws ++ wordsOf ts) :
    ws = [] ∧ blankLine ts = true := by
  cases crosses h h' htext with
  | @meets xs words _ blank =>
    have hlen := congrArg List.length hwords
    rw [words, List.length_append, List.length_append] at hlen
    exact ⟨List.eq_nil_of_length_eq_zero (by omega),
      blank (List.eq_nil_of_length_eq_zero (by omega))⟩
  | @inside xs js us' v m x s words words' _ mark text closes scan scan' rest short =>
    obtain ⟨_, hjs⟩ := scan
    obtain ⟨_, hus'⟩ := scan'
    -- The string has a line feed in it, so what was hidden before it does not matter.
    have hv : hides (xs.foldl hides false) v.text = covered (lastLine s) := by
      rw [text, hides_string mark, lastLine_append_newline]
      simp
    have hapart := apart _ (Nat.lt_succ_self _) closes hus' hjs rest hv (by simp [text]; omega)
    have hself : Apart false (ws ++ wordsOf ts) false (wordsOf ts) := by
      rw [← hwords, words', words]
      exact (Apart.append xs hapart.symm).symm
    exact absurd hself (not_apart_append hws)

end Token

end FormEdit
