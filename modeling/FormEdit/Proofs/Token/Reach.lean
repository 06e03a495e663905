import FormEdit.Node.Basic
import FormEdit.Token.Scan
import Mathlib.Tactic.SplitIfs

set_option autoImplicit false

/-! # How far a token reaches

A token is settled by its own characters and the one behind them (`settled_reach`). What stands
further on changes nothing, and a token that ends within the front part of a text is found when only
that part is read. So a token that is cut off and put before another text can only grow. -/

namespace FormEdit

/-! ## Runs of characters -/

section Runs

variable {p : Char → Bool} {s r : List Char}

/-- A run that ends within `s` is the run of any longer text. -/
theorem takeWhile_append_of_lt (h : (s.takeWhile p).length < s.length) :
    (s ++ r).takeWhile p = s.takeWhile p := by
  rw [List.takeWhile_append, if_neg (by omega)]

/-- A run of a longer text that does not leave `s` is the run of `s`. -/
theorem takeWhile_of_append (h : ((s ++ r).takeWhile p).length ≤ s.length) :
    (s ++ r).takeWhile p = s.takeWhile p := by
  rw [List.takeWhile_append] at h ⊢
  split_ifs at h ⊢ with hs
  · have hr : (r.takeWhile p).length = 0 := by
      rw [List.length_append] at h
      omega
    rw [List.eq_nil_of_length_eq_zero hr, List.append_nil]
    exact ((List.takeWhile_prefix p).eq_of_length hs).symm
  · rfl

/-- What stands behind a run. -/
theorem drop_length_takeWhile : s.drop (s.takeWhile p).length = s.dropWhile p := by
  induction s with
  | nil => rfl
  | cons c s ih => cases hc : p c <;> simp [hc, ih]

end Runs

/-- A character that ends no atom is part of the atom that it opens. -/
theorem atomReach_pos {c : Char} {r : List Char} (h : isDelimiter c = false) :
    0 < atomReach (c :: r) := by
  simp [atomReach, h]

/-! ## Strings -/

theorem stringReach?_cons {c : Char} (h : c ≠ '\\') (n : Nat) (r : List Char) :
    stringReach? n (c :: r) = if c = '"' then some (n + 1) else stringReach? (n + 1) r := by
  rw [stringReach?.eq_4]
  · exact fun he => absurd he h
  · exact fun _ _ he => absurd he h

/-- A character that is read by itself is no backslash: one would stand last or take the next
    character with it. -/
theorem ne_backslash {c : Char} {s : List Char} (h1 : c = '\\' → s = [] → False)
    (h2 : ∀ d r, c = '\\' → s = d :: r → False) : c ≠ '\\' := by
  intro hc
  cases s with
  | nil => exact h1 hc rfl
  | cons d s => exact h2 d s hc rfl

/-- A closing quotation mark is one of the characters that are read. -/
theorem stringReach?_bounds {n m : Nat} {s : List Char} (h : stringReach? n s = some m) :
    n < m ∧ m ≤ n + s.length := by
  fun_induction stringReach? n s with
  | case1 => cases h
  | case2 => cases h
  | case3 n d r ih =>
    have := ih h
    simp only [List.length_cons]
    omega
  | case4 n r =>
    cases h
    simp only [List.length_cons]
    omega
  | case5 n c r h1 h2 h3 ih =>
    have := ih h
    simp only [List.length_cons]
    omega

/-- A string that closes is closed by the same mark whatever stands behind it. -/
theorem stringReach?_append {n m : Nat} {s : List Char} (r : List Char)
    (h : stringReach? n s = some m) : stringReach? n (s ++ r) = some m := by
  fun_induction stringReach? n s with
  | case1 => cases h
  | case2 => cases h
  | case3 n d s ih => simpa [stringReach?] using ih h
  | case4 n s => simpa [stringReach?] using h
  | case5 n c s h1 h2 h3 ih =>
    have hc := ne_backslash h1 h2
    rw [List.cons_append, stringReach?_cons hc, if_neg h3]
    exact ih h

/-- A string that closes within `s` does so when only `s` is read. -/
theorem stringReach?_of_append {n m : Nat} {s r : List Char}
    (h : stringReach? n (s ++ r) = some m) (hm : m ≤ n + s.length) : stringReach? n s = some m := by
  fun_induction stringReach? n s with
  | case1 n =>
    have := (stringReach?_bounds h).1
    simp only [List.length_nil] at hm
    omega
  | case2 n =>
    -- The backslash takes a character of `r` with it, so the mark lies behind that.
    cases r with
    | nil => simp [stringReach?] at h
    | cons d r =>
      rw [List.cons_append, List.nil_append, stringReach?] at h
      have := (stringReach?_bounds h).1
      simp only [List.length_cons, List.length_nil] at hm
      omega
  | case3 n d s ih =>
    simp only [List.cons_append, stringReach?] at h
    simp only [List.length_cons] at hm
    exact ih h (by omega)
  | case4 n s => simpa [stringReach?] using h
  | case5 n c s h1 h2 h3 ih =>
    have hc := ne_backslash h1 h2
    rw [List.cons_append, stringReach?_cons hc, if_neg h3] at h
    simp only [List.length_cons] at hm
    exact ih h (by omega)

/-- The cases of a choice that comes to a value. -/
theorem of_ite {α : Type} {q : Prop} [Decidable q] {P : Prop} {x y v : α}
    (h : (if q then x else y) = v) (hx : q → x = v → P) (hy : ¬q → y = v → P) : P := by
  by_cases hq : q
  · exact hx hq (by rwa [if_pos hq] at h)
  · exact hy hq (by rwa [if_neg hq] at h)

/-! ## Readings that one more character settles -/

/-- A reading of a text that lies behind `m` characters already read: it covers no more than there
    is, what it makes of `s` it makes of a longer text unless it covers all of `s`, and what it
    makes of a longer text it makes of `s` if it covers no more than `s`. -/
structure Settled (m : Nat) (f : List Char → Except OpenLiteral (TokenKind × Nat)) : Prop where
  le : ∀ {r k n}, f r = .ok (k, n) → n ≤ m + r.length
  append : ∀ {s k n}, f s = .ok (k, n) → n < m + s.length → ∀ r, f (s ++ r) = .ok (k, n)
  of_append : ∀ {s r k n}, f (s ++ r) = .ok (k, n) → n ≤ m + s.length → f s = .ok (k, n)

namespace Settled

variable {m : Nat} {k : TokenKind} {f g : List Char → Except OpenLiteral (TokenKind × Nat)}

/-- A token of a fixed length. -/
theorem fixed {n : Nat} (h : n ≤ m) : Settled m fun _ => .ok (k, n) where
  le hr := by
    cases hr
    omega
  append hs _ _ := hs
  of_append hs _ := hs

/-- A token that goes on for a run of characters. -/
theorem run (p : Char → Bool) : Settled m fun r => .ok (k, m + (r.takeWhile p).length) where
  le {r _ n} hr := by
    cases hr
    have := (List.takeWhile_prefix p (l := r)).length_le
    omega
  append {s _ n} hs hn r := by
    cases hs
    rw [takeWhile_append_of_lt (by omega)]
  of_append {s r _ n} hs hn := by
    cases hs
    rw [takeWhile_of_append (by omega)]

/-- A string, whose opening mark is behind. -/
theorem string : Settled m fun r =>
    match stringReach? m r with
    | some n => .ok (.string, n)
    | none => .error .string where
  le {r k n} hr := by
    split at hr
    · next hm =>
      cases hr
      exact (stringReach?_bounds hm).2
    · cases hr
  append {s k n} hs _ r := by
    split at hs
    · next hm =>
      cases hs
      rw [stringReach?_append r hm]
    · cases hs
  of_append {s r k n} hs hn := by
    split at hs
    · next hm =>
      cases hs
      rw [stringReach?_of_append hm hn]
    · cases hs

/-- A token that takes in the character `x` if it comes next. -/
theorem optional (x : Char) :
    Settled m fun r => .ok (k, if r.head? = some x then m + 1 else m) where
  le {r _ n} hr := by
    cases hr
    cases r with
    | nil => simp
    | cons c r =>
      simp only [List.length_cons]
      split <;> omega
  append {s _ n} hs hn r := by
    cases s with
    | nil =>
      cases hs
      simp at hn
    | cons c s => exact hs
  of_append {s r _ n} hs hn := by
    cases s with
    | nil =>
      cases hs
      rw [List.nil_append, List.length_nil] at hn
      rw [List.nil_append]
      split at hn
      · omega
      · next h => simp [h]
    | cons c s => exact hs

theorem ite {q : Prop} [Decidable q] (hf : q → Settled m f) (hg : ¬q → Settled m g) :
    Settled m fun r => if q then f r else g r := by
  by_cases h : q
  · simpa only [if_pos h] using hf h
  · simpa only [if_neg h] using hg h

/-- A reading that looks at one character first. With no character there it must come to what it
    comes to where it takes in none. -/
theorem next {g : Char → List Char → Except OpenLiteral (TokenKind × Nat)}
    (hg : ∀ c, Settled (m + 1) (g c)) (h0 : ∀ {k n}, f [] = .ok (k, n) → n = m)
    (hc : ∀ {c s k n}, g c s = .ok (k, n) → n ≤ m → f [] = .ok (k, n))
    (hf : ∀ c s, f (c :: s) = g c s) : Settled m f where
  le {r k n} hr := by
    cases r with
    | nil =>
      have := h0 hr
      omega
    | cons c r =>
      rw [hf] at hr
      have := (hg c).le hr
      rw [List.length_cons]
      omega
  append {s k n} hs hn r := by
    cases s with
    | nil =>
      have := h0 hs
      simp only [List.length_nil] at hn
      omega
    | cons c s =>
      rw [hf] at hs
      rw [List.length_cons] at hn
      rw [List.cons_append, hf]
      exact (hg c).append hs (by omega) r
  of_append {s r k n} hs hn := by
    cases s with
    | nil =>
      -- With nothing of `s` to cover, the character that is looked at belongs to `r`.
      cases r with
      | nil => exact hs
      | cons c r =>
        rw [List.nil_append, hf] at hs
        exact hc hs (by simpa using hn)
    | cons c s =>
      rw [List.cons_append, hf] at hs
      rw [List.length_cons] at hn
      rw [hf]
      exact (hg c).of_append hs (by omega)

end Settled

/-! ## Every token is settled so -/

/-- What a character behind `#` makes of it. -/
theorem settled_hashReach_cons (c : Char) : Settled 1 fun s => hashReach (c :: s) := by
  refine .ite (fun _ => .fixed (Nat.le_refl 1)) fun _ => ?_
  refine .ite (fun _ => .string) fun _ => ?_
  refine .ite (fun hc => ?_) fun _ => ?_
  · subst hc
    simpa [lineReach, Nat.add_comm] using Settled.run (m := 1) (k := .comment) fun c => c ≠ '\n'
  refine .ite (fun _ => .fixed (Nat.le_refl 1)) fun _ => ?_
  refine .ite (fun _ => .optional '@') fun _ => ?_
  refine .ite (fun _ => .run _) fun _ => ?_
  refine .ite (fun _ => .run _) fun _ => ?_
  refine .ite (fun _ => .fixed (Nat.zero_le 1)) fun hc => ?_
  simpa [atomReach, hc, Nat.add_comm] using Settled.run (m := 1) (k := .mark) fun c => !isDelimiter c

/-- Where `#` takes in nothing, it is an atom, and what comes next ends an atom and opens nothing
    with it. -/
theorem hashReach_cons_zero {c : Char} {s : List Char} {k : TokenKind} {n : Nat}
    (h : hashReach (c :: s) = .ok (k, n)) (hn : n ≤ 0) :
    k = .atom ∧ n = 0 ∧ isDelimiter c = true ∧ c ≠ '{' ∧ c ≠ '(' ∧ c ≠ '"' := by
  have hn := Nat.le_zero.1 hn
  subst hn
  refine of_ite h (fun _ h => by cases h) fun ho h => of_ite h (fun _ h => ?_) fun hq h => ?_
  · split at h
    · next m hm =>
      cases h
      exact absurd (stringReach?_bounds hm).1 (by omega)
    · cases h
  refine of_ite h (fun hc h => by simp [hc, lineReach] at h) fun _ h => ?_
  refine of_ite h (fun _ h => by cases h) fun _ h => ?_
  refine of_ite h (fun _ h => by split at h <;> cases h) fun _ h => ?_
  refine of_ite h (fun _ h => by simp at h) fun _ h => ?_
  refine of_ite h (fun _ h => by simp at h) fun _ h => ?_
  refine of_ite h (fun hd h => ?_) fun hc h => ?_
  · simp only [Bool.or_eq_true, decide_eq_true_eq, not_or] at ho
    cases h
    exact ⟨rfl, rfl, hd, ho.1, ho.2, hq⟩
  · have := atomReach_pos (r := s) (by simpa using hc)
    simp only [Except.ok.injEq, Prod.mk.injEq] at h
    omega

/-- Before what ends an atom and opens nothing with it `#` stays an atom. -/
theorem hashReach_cons_of_isDelimiter {c : Char} (hc : isDelimiter c = true) (hcurly : c ≠ '{')
    (hround : c ≠ '(') (hquote : c ≠ '"') (s : List Char) : hashReach (c :: s) = .ok (.atom, 0) := by
  have hne : ∀ x, isDelimiter x = false → c ≠ x := by
    rintro x hx rfl
    rw [hc] at hx
    cases hx
  simp [hashReach, hc, hcurly, hround, hquote, hne '!' (by decide), hne '_' (by decide),
    hne '\'' (by decide), hne '=' (by decide), hne '^' (by decide), hne '?' (by decide),
    hne ':' (by decide), hne '#' (by decide)]

theorem settled_hashReach : Settled 0 hashReach := by
  refine .next (g := fun c s => hashReach (c :: s)) settled_hashReach_cons
    (fun h => ?_) (fun h hn => ?_) fun _ _ => rfl
  · cases h
    rfl
  · obtain ⟨rfl, rfl, -⟩ := hashReach_cons_zero h hn
    rfl

/-- What a backslash makes of what is behind it. -/
theorem settled_char : Settled 0 fun r =>
    match r with
    | [] => .error .char
    | d :: s => .ok (.char, if isAlphaNumeric d then 1 + atomReach s else 1) := by
  refine .next (g := fun d s => .ok (.char, if isAlphaNumeric d then 1 + atomReach s else 1))
    (fun d => ?_) (fun h => by cases h) (fun h hn => ?_) fun _ _ => rfl
  · by_cases hd : isAlphaNumeric d
    · simpa only [if_pos hd] using .run _
    · simpa only [if_neg hd] using .fixed (Nat.le_refl 1)
  · cases h
    split at hn <;> omega

/-- A token is settled by the characters that it covers and the one behind them. -/
theorem settled_reach (c : Char) : Settled 0 (reach c) := by
  -- The choices in the order in which `reach` makes them.
  refine .ite (fun _ => .fixed (Nat.le_refl 0)) fun _ => ?_
  refine .ite (fun _ => ?_) fun _ => ?_
  · simpa using Settled.run (m := 0) (k := .whitespace) isSpacing
  refine .ite (fun _ => ?_) fun _ => ?_
  · simpa [lineReach] using Settled.run (m := 0) (k := .comment) fun c => c ≠ '\n'
  refine .ite (fun _ => .string) fun _ => ?_
  refine .ite (fun _ => settled_char) fun _ => ?_
  refine .ite (fun _ => .fixed (Nat.le_refl 0)) fun _ => ?_
  refine .ite (fun _ => .fixed (Nat.le_refl 0)) fun _ => ?_
  refine .ite (fun _ => settled_hashReach) fun _ => ?_
  refine .ite (fun _ => .optional '@') fun _ => ?_
  refine .ite (fun _ => .fixed (Nat.le_refl 0)) fun _ => ?_
  simpa [atomReach] using Settled.run (m := 0) (k := .atom) fun c => !isDelimiter c

/-! ## What the kind of a token says of its text -/

/-- What a kind says of the first character `c` of a token, of the text `r` behind that and of the
    number `n` of characters of `r` that belong to the token. -/
def TokenKind.Fits (c : Char) (r : List Char) (n : Nat) : TokenKind → Prop
  | newline => c = '\n' ∧ n = 0
  | whitespace => c ≠ '\n' ∧ isSpacing c = true ∧ n = (r.takeWhile isSpacing).length
  | comment => (c = ';' ∨ c = '#' ∧ r.head? = some '!') ∧ n = lineReach r
  | opener => ∃ b : Bracket, b.opening = c :: r.take n
  | closer => ∃ b : Bracket, b.closing = [c] ∧ n = 0
  | _ => c ≠ '\n' ∧ isSpacing c = false

theorem fits_of_hashReach {r : List Char} {k : TokenKind} {n : Nat}
    (h : hashReach r = .ok (k, n)) : k.Fits '#' r n := by
  have hs : '#' ≠ '\n' ∧ isSpacing '#' = false := by decide
  cases r with
  | nil =>
    cases h
    exact hs
  | cons d s =>
    refine of_ite h (fun hd h => ?_) fun _ h => of_ite h (fun _ h => ?_) fun _ h => ?_
    · cases h
      rw [Bool.or_eq_true, decide_eq_true_eq, decide_eq_true_eq] at hd
      rcases hd with rfl | rfl
      · exact ⟨.set, rfl⟩
      · exact ⟨.fn, rfl⟩
    · split at h
      · cases h
        exact hs
      · cases h
    refine of_ite h (fun hd h => ?_) fun _ h => ?_
    · cases h
      exact ⟨.inr ⟨rfl, by rw [hd, List.head?_cons]⟩, rfl⟩
    refine of_ite h (fun _ h => by cases h; exact hs) fun _ h => ?_
    refine of_ite h (fun _ h => by cases h; exact hs) fun _ h => ?_
    refine of_ite h (fun _ h => by cases h; exact hs) fun _ h => ?_
    refine of_ite h (fun _ h => by cases h; exact hs) fun _ h => ?_
    refine of_ite h (fun _ h => by cases h; exact hs) fun _ h => ?_
    cases h
    exact hs

/-- A token is of the kind that its text has the shape of. -/
theorem fits_of_reach {c : Char} {r : List Char} {k : TokenKind} {n : Nat}
    (h : reach c r = .ok (k, n)) : k.Fits c r n := by
  refine of_ite h (fun hc h => by cases h; exact ⟨hc, rfl⟩) fun h1 h => ?_
  refine of_ite h (fun hc h => by cases h; exact ⟨h1, hc, rfl⟩) fun h2 h => ?_
  have hs : c ≠ '\n' ∧ isSpacing c = false := ⟨h1, by simpa using h2⟩
  refine of_ite h (fun hc h => by cases h; exact ⟨.inl hc, rfl⟩) fun _ h => ?_
  refine of_ite h (fun _ h => ?_) fun _ h => of_ite h (fun _ h => ?_) fun _ h => ?_
  · split at h
    · cases h
      exact hs
    · cases h
  · split at h
    · cases h
    · cases h
      exact hs
  refine of_ite h (fun hc h => ?_) fun _ h => of_ite h (fun hc h => ?_) fun _ h => ?_
  · cases h
    simp only [Bool.or_eq_true, decide_eq_true_eq] at hc
    rcases hc with (rfl | rfl) | rfl
    · exact ⟨.list, rfl⟩
    · exact ⟨.vector, rfl⟩
    · exact ⟨.map, rfl⟩
  · cases h
    simp only [Bool.or_eq_true, decide_eq_true_eq] at hc
    rcases hc with (rfl | rfl) | rfl
    · exact ⟨.list, rfl, rfl⟩
    · exact ⟨.vector, rfl, rfl⟩
    · exact ⟨.map, rfl, rfl⟩
  refine of_ite h (fun hc h => by rw [hc]; exact fits_of_hashReach h) fun _ h => ?_
  refine of_ite h (fun _ h => by cases h; exact hs) fun _ h => ?_
  refine of_ite h (fun _ h => by cases h; exact hs) fun _ h => ?_
  cases h
  exact hs

end FormEdit
