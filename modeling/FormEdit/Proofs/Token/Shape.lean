import FormEdit.Proofs.Token.Seam

set_option autoImplicit false

/-! # What a token may look like

A token is a string, a comment, a character literal of two characters, a run of characters that end
no atom, or a text with neither a quotation mark nor a backslash in it (`Token.Whole.shape`). So
quotation marks and line feeds stand in few tokens, and a backslash at the end of a token goes on
with the next character in most of them. -/

namespace FormEdit

/-! ## The rest of a string -/

/-- Whether a text is the rest of a string up to the mark that closes it. -/
inductive Closes : List Char → Prop
  | mark : Closes ['"']
  | escape {c : Char} {s : List Char} (rest : Closes s) : Closes ('\\' :: c :: s)
  | char {c : Char} {s : List Char} (plain : c ≠ '\\') (inner : c ≠ '"') (rest : Closes s) :
    Closes (c :: s)

namespace Closes

theorem ne_nil {s : List Char} (h : Closes s) : s ≠ [] := by
  cases h <;> simp

theorem getLast? {s : List Char} (h : Closes s) : s.getLast? = some '"' := by
  induction h with
  | mark => rfl
  | @escape c s rest ih =>
    obtain ⟨d, s, rfl⟩ := List.exists_cons_of_ne_nil rest.ne_nil
    simpa using ih
  | @char c s _ _ rest ih =>
    obtain ⟨d, s, rfl⟩ := List.exists_cons_of_ne_nil rest.ne_nil
    simpa using ih

/-- A string that is cut off at its closing mark has its rest up to that. -/
theorem of_stringReach? {n m : Nat} {s : List Char} (h : stringReach? n s = some m) :
    Closes (s.take (m - n)) := by
  fun_induction stringReach? n s with
  | case1 => cases h
  | case2 => cases h
  | case3 n d s ih =>
    have hlt := (stringReach?_bounds h).1
    obtain ⟨k, hk⟩ : ∃ k, m - n = k + 2 := ⟨m - n - 2, by omega⟩
    have hk' : m - (n + 2) = k := by omega
    rw [hk, List.take_succ_cons, List.take_succ_cons, ← hk']
    exact .escape (ih h)
  | case4 n s =>
    cases h
    rw [Nat.add_sub_cancel_left]
    exact .mark
  | case5 n c s h1 h2 h3 ih =>
    have hlt := (stringReach?_bounds h).1
    obtain ⟨k, hk⟩ : ∃ k, m - n = k + 1 := ⟨m - n - 1, by omega⟩
    have hk' : m - (n + 1) = k := by omega
    rw [hk, List.take_succ_cons, ← hk']
    exact .char (ne_backslash h1 h2) h3 (ih h)

/-- A string ends at the first mark that closes it. -/
theorem append_inj {s s' r r' : List Char} (h : Closes s) (h' : Closes s')
    (heq : s ++ r = s' ++ r') : s = s' := by
  induction h generalizing s' with
  | mark =>
    cases h' with
    | mark => rfl
    | escape _ => simp at heq
    | char _ inner _ => simp [inner.symm] at heq
  | escape _ ih =>
    cases h' with
    | mark => simp at heq
    | escape rest' =>
      simp only [List.cons_append, List.cons.injEq, true_and] at heq
      rw [heq.1, ih rest' heq.2]
    | char plain' _ _ => simp [plain'.symm] at heq
  | char plain inner _ ih =>
    cases h' with
    | mark => simp [inner] at heq
    | escape _ => simp [plain] at heq
    | char _ _ rest' =>
      simp only [List.cons_append, List.cons.injEq] at heq
      rw [heq.1, ih rest' heq.2]

/-- What is left of the rest of a string behind some of it is a rest again, unless a backslash has
    the next character still to come. -/
theorem behind {xs r : List Char} (h : Closes (xs ++ r)) (hr : r ≠ []) :
    Closes r ∨ xs.getLast? = some '\\' ∧ ∃ d s, r = d :: s ∧ Closes s := by
  generalize hs : xs ++ r = s at h
  induction h generalizing xs with
  | mark =>
    cases xs with
    | nil =>
      rw [List.nil_append] at hs
      exact .inl (hs ▸ .mark)
    | cons x xs => simp [hr] at hs
  | @escape c s rest ih =>
    match xs, hs with
    | [], hs =>
      rw [List.nil_append] at hs
      exact .inl (hs ▸ .escape rest)
    | [x], hs =>
      simp only [List.cons_append, List.nil_append, List.cons.injEq] at hs
      exact .inr ⟨by rw [hs.1]; rfl, c, s, hs.2, rest⟩
    | x :: y :: xs, hs =>
      simp only [List.cons_append, List.cons.injEq] at hs
      rcases ih hs.2.2 with hcl | ⟨hlast, hrest⟩
      · exact .inl hcl
      · exact .inr ⟨by rw [List.getLast?_cons_cons, List.getLast?_cons, hlast]; rfl, hrest⟩
  | @char c s plain inner rest ih =>
    match xs, hs with
    | [], hs =>
      rw [List.nil_append] at hs
      exact .inl (hs ▸ .char plain inner rest)
    | x :: xs, hs =>
      simp only [List.cons_append, List.cons.injEq] at hs
      rcases ih hs.2 with hcl | ⟨hlast, hrest⟩
      · exact .inl hcl
      · exact .inr ⟨by rw [List.getLast?_cons, hlast]; rfl, hrest⟩

/-- A string goes on behind a line feed in it. -/
theorem behind_newline {x s : List Char} (h : Closes (x ++ '\n' :: s)) : Closes s := by
  have heq : x ++ '\n' :: s = x ++ ['\n'] ++ s := by simp
  have hs : s ≠ [] := by
    rintro rfl
    have := h.getLast?
    simp at this
  rw [heq] at h
  rcases h.behind hs with h | ⟨hlast, -⟩
  · exact h
  · simp at hlast

end Closes

namespace Token

/-! ## The looks of a token -/

/-- The looks that a token may have. -/
inductive Shape (t : Token) : Prop
  | comment (kind : t.kind = .comment)
  | string {m s : List Char} (kind : t.kind = .string) (opens : m = [] ∨ m = ['#'])
    (text : t.text = m ++ '"' :: s) (closes : Closes s)
  | char {c : Char} (kind : t.kind = .char) (text : t.text = ['\\', c])
  | run (solid : t.isTrivia = false) (kind : t.kind ≠ .string)
    (runs : t.RunsOver fun c => !isDelimiter c) (clear : ∀ x ∈ t.text, x ≠ '"' ∧ x ≠ '\n')
  | plain (comment : t.kind ≠ .comment) (string : t.kind ≠ .string)
    (clear : ∀ x ∈ t.text, x ≠ '"' ∧ x ≠ '\\')
    (line : '\n' ∈ t.text → t.text = ['\n'] ∧ t.kind = .newline)

theorem isDelimiter_quote : isDelimiter '"' = true := by decide

theorem isDelimiter_newline : isDelimiter '\n' = true := by decide

/-- A character that ends no atom is neither a quotation mark nor a line feed. -/
theorem clear_of_not_isDelimiter {x : Char} (h : isDelimiter x = false) : x ≠ '"' ∧ x ≠ '\n' := by
  constructor
  · rintro rfl
    rw [isDelimiter_quote] at h
    cases h
  · rintro rfl
    rw [isDelimiter_newline] at h
    cases h

section

variable {t : Token} {c : Char} {d s : List Char}

/-- A token goes on like an atom if that is how it reads what stands behind its first characters. -/
theorem runsOver_atom (ht : t.text = c :: (d ++ s))
    (hreach : ∀ r, reach c (d ++ (s ++ r)) = .ok (t.kind, d.length + atomReach (s ++ r)))
    (hlen : atomReach s = s.length) : t.RunsOver fun c => !isDelimiter c := by
  have hall : ∀ x ∈ s, (!isDelimiter x) = true :=
    List.takeWhile_eq_self_iff.1 ((List.takeWhile_prefix _).eq_of_length hlen)
  refine ⟨c, d ++ s, ht, fun r => ?_⟩
  rw [List.append_assoc, hreach, atomReach, List.takeWhile_append_of_pos hall, List.length_append,
    List.length_append, Nat.add_assoc]

theorem shape_run (ht : t.text = c :: (d ++ s))
    (hk : t.kind = .atom ∨ t.kind = .mark ∨ t.kind = .char)
    (hreach : ∀ r, reach c (d ++ (s ++ r)) = .ok (t.kind, d.length + atomReach (s ++ r)))
    (hlen : atomReach s = s.length) (hclear : ∀ x ∈ c :: d, x ≠ '"' ∧ x ≠ '\n') : t.Shape := by
  have hall : ∀ x ∈ s, (!isDelimiter x) = true :=
    List.takeWhile_eq_self_iff.1 ((List.takeWhile_prefix _).eq_of_length hlen)
  have hkind : t.isTrivia = false ∧ t.kind ≠ .string := by
    rcases hk with hk | hk | hk <;> simp [isTrivia, hk, TokenKind.isTrivia]
  refine .run hkind.1 hkind.2 (runsOver_atom ht hreach hlen) fun x hx => ?_
  rw [ht, ← List.cons_append] at hx
  rcases List.mem_append.1 hx with hx | hx
  · exact hclear x hx
  · exact clear_of_not_isDelimiter (by simpa using hall x hx)

/-- A token of characters that are neither quotation marks nor backslashes nor line feeds. -/
theorem shape_plain (hc : t.kind ≠ .comment) (hs : t.kind ≠ .string)
    (hclear : ∀ x ∈ t.text, x ≠ '"' ∧ x ≠ '\\' ∧ x ≠ '\n') : t.Shape :=
  .plain hc hs (fun x hx => ⟨(hclear x hx).1, (hclear x hx).2.1⟩)
    fun hnl => absurd rfl (hclear _ hnl).2.2

/-- A string whose mark stands behind `m`. -/
theorem shape_string {m : List Char} (hk : t.kind = .string) (hm : m = [] ∨ m = ['#'])
    (ht : t.text = m ++ '"' :: s) (hs : stringReach? m.length s = some (m.length + s.length)) :
    t.Shape := by
  have hcl := Closes.of_stringReach? hs
  rw [Nat.add_sub_cancel_left, List.take_length] at hcl
  exact .string hk hm ht hcl

end

/-- A text that a mark takes in one more character of, if that is `x`, is the character or none. -/
theorem eq_nil_or_eq_of_optional {x : Char} {s : List Char}
    (h : (if s.head? = some x then 1 else 0) = s.length) : s = [] ∨ s = [x] := by
  cases s with
  | nil => exact .inl rfl
  | cons d s =>
    rw [List.length_cons] at h
    split at h
    · next hd =>
      obtain rfl := List.eq_nil_of_length_eq_zero (l := s) (by omega)
      exact .inr (by rw [Option.some.inj hd])
    · omega

/-- A character literal goes on like an atom behind a letter or a digit. -/
theorem shape_char {t : Token} {d : Char} {s : List Char} (ht : t.text = '\\' :: d :: s)
    (hk : t.kind = .char)
    (h : (if isAlphaNumeric d then 1 + atomReach s else 1) = (d :: s).length) : t.Shape := by
  by_cases hd : isAlphaNumeric d
  · rw [if_pos hd, List.length_cons] at h
    refine shape_run (d := [d]) ht (.inr (.inr hk)) (fun r => ?_) (by omega) ?_
    · have hr : reach '\\' (d :: (s ++ r)) =
          .ok (.char, if isAlphaNumeric d then 1 + atomReach (s ++ r) else 1) := rfl
      rw [List.cons_append, List.nil_append, hr, if_pos hd, hk, List.length_singleton]
    · intro x hx
      rcases List.mem_cons.1 hx with rfl | hx
      · decide
      obtain rfl := List.mem_singleton.1 hx
      constructor <;>
      · rintro rfl
        exact absurd hd (by decide +kernel)
  · rw [if_neg hd, List.length_cons] at h
    have hs := List.eq_nil_of_length_eq_zero (l := s) (by omega)
    rw [hs] at ht
    exact .char hk ht

theorem shape_hash {t : Token} {s : List Char} (ht : t.text = '#' :: s)
    (h : hashReach s = .ok (t.kind, s.length)) : t.Shape := by
  have hreach : ∀ r, reach '#' r = hashReach r := fun _ => rfl
  cases s with
  | nil =>
    simp only [hashReach, Except.ok.injEq, Prod.mk.injEq] at h
    refine shape_plain (by simp [← h.1]) (by simp [← h.1]) ?_
    simp [ht]
  | cons d s =>
    rw [List.length_cons] at h
    refine of_ite h (fun hd h => ?_) fun h1 h => of_ite h (fun hd h => ?_) fun h2 h => ?_
    · simp only [Except.ok.injEq, Prod.mk.injEq] at h
      obtain rfl := List.eq_nil_of_length_eq_zero (l := s) (by omega)
      refine shape_plain (by simp [← h.1]) (by simp [← h.1]) ?_
      rw [ht]
      simp only [Bool.or_eq_true, decide_eq_true_eq] at hd
      rcases hd with rfl | rfl <;> simp
    · split at h
      · next n hn =>
        simp only [Except.ok.injEq, Prod.mk.injEq] at h
        rw [hd] at ht
        refine shape_string (m := ['#']) h.1.symm (.inr rfl) ht ?_
        rw [List.length_singleton, hn, h.2, Nat.add_comm]
      · cases h
    refine of_ite h (fun hd h => ?_) fun h3 h => of_ite h (fun hd h => ?_) fun h4 h => ?_
    · simp only [Except.ok.injEq, Prod.mk.injEq] at h
      exact .comment h.1.symm
    · simp only [Except.ok.injEq, Prod.mk.injEq] at h
      obtain rfl := List.eq_nil_of_length_eq_zero (l := s) (by omega)
      refine shape_plain (by simp [← h.1]) (by simp [← h.1]) ?_
      rw [ht]
      simp only [Bool.or_eq_true, decide_eq_true_eq] at hd
      rcases hd with ((rfl | rfl) | rfl) | rfl <;> simp
    refine of_ite h (fun hd h => ?_) fun h5 h => of_ite h (fun hd h => ?_) fun h6 h => ?_
    · simp only [Except.ok.injEq, Prod.mk.injEq] at h
      rw [hd] at ht
      refine shape_plain (by simp [← h.1]) (by simp [← h.1]) ?_
      rw [ht]
      have hlen : (if s.head? = some '@' then 1 else 0) = s.length := by
        have hlen := h.2
        split_ifs at hlen ⊢ <;> omega
      rcases eq_nil_or_eq_of_optional hlen with rfl | rfl <;> simp
    · simp only [Except.ok.injEq, Prod.mk.injEq] at h
      rw [hd] at ht
      refine shape_run (d := [':']) ht (.inr (.inl h.1.symm)) (fun r => ?_) (by omega) (by simp)
      rw [← h.1]
      rfl
    refine of_ite h (fun hd h => ?_) fun h7 h => of_ite h (fun hd h => ?_) fun h8 h => ?_
    · simp only [Except.ok.injEq, Prod.mk.injEq] at h
      rw [hd] at ht
      refine shape_run (d := ['#']) ht (.inl h.1.symm) (fun r => ?_) (by omega) (by simp)
      rw [← h.1]
      rfl
    · simp only [Except.ok.injEq, Prod.mk.injEq] at h
      omega
    · simp only [Except.ok.injEq, Prod.mk.injEq] at h
      refine shape_run (d := []) ht (.inr (.inl h.1.symm)) (fun r => ?_) (by simpa using h.2)
        (by simp)
      rw [List.nil_append, List.cons_append, hreach, hashReach, if_neg h1, if_neg h2, if_neg h3,
        if_neg h4, if_neg h5, if_neg h6, if_neg h7, if_neg h8, ← h.1]
      simp

/-- A token has one of the looks. -/
theorem Whole.shape {t : Token} (h : t.Whole) : t.Shape := by
  obtain ⟨c, s, ht, h⟩ := h
  refine of_ite h (fun hc h => ?_) fun h1 h => ?_
  · simp only [Except.ok.injEq, Prod.mk.injEq] at h
    have hs := List.eq_nil_of_length_eq_zero h.2.symm
    rw [hc, hs] at ht
    refine .plain (by simp [← h.1]) (by simp [← h.1]) ?_ fun _ => ⟨ht, h.1.symm⟩
    simp [ht]
  refine of_ite h (fun hc h => ?_) fun h2 h => ?_
  · simp only [Except.ok.injEq, Prod.mk.injEq] at h
    have hall : ∀ x ∈ s, isSpacing x = true :=
      List.takeWhile_eq_self_iff.1 ((List.takeWhile_prefix _).eq_of_length h.2)
    refine shape_plain (by simp [← h.1]) (by simp [← h.1]) ?_
    rw [ht]
    intro x hx
    have hx : isSpacing x = true := by
      rcases List.mem_cons.1 hx with rfl | hx
      · exact hc
      · exact hall x hx
    refine ⟨?_, ?_, ?_⟩ <;>
    · rintro rfl
      exact absurd hx (by decide)
  refine of_ite h (fun hc h => ?_) fun h3 h => ?_
  · simp only [Except.ok.injEq, Prod.mk.injEq] at h
    exact .comment h.1.symm
  refine of_ite h (fun hc h => ?_) fun h4 h => of_ite h (fun hc h => ?_) fun h5 h => ?_
  · split at h
    · next n hn =>
      simp only [Except.ok.injEq, Prod.mk.injEq] at h
      rw [hc] at ht
      exact shape_string (m := []) h.1.symm (.inl rfl) ht (by simpa [h.2] using hn)
    · cases h
  · cases s with
    | nil => cases h
    | cons d s =>
      simp only [Except.ok.injEq, Prod.mk.injEq] at h
      rw [hc] at ht
      exact shape_char ht h.1.symm h.2
  refine of_ite h (fun hc h => ?_) fun h6 h => of_ite h (fun hc h => ?_) fun h7 h => ?_
  · simp only [Except.ok.injEq, Prod.mk.injEq] at h
    obtain rfl := List.eq_nil_of_length_eq_zero h.2.symm
    refine shape_plain (by simp [← h.1]) (by simp [← h.1]) ?_
    rw [ht]
    simp only [Bool.or_eq_true, decide_eq_true_eq] at hc
    rcases hc with (rfl | rfl) | rfl <;> simp
  · simp only [Except.ok.injEq, Prod.mk.injEq] at h
    obtain rfl := List.eq_nil_of_length_eq_zero h.2.symm
    refine shape_plain (by simp [← h.1]) (by simp [← h.1]) ?_
    rw [ht]
    simp only [Bool.or_eq_true, decide_eq_true_eq] at hc
    rcases hc with (rfl | rfl) | rfl <;> simp
  refine of_ite h (fun hc h => ?_) fun h8 h => of_ite h (fun hc h => ?_) fun h9 h => ?_
  · rw [hc] at ht
    exact shape_hash ht h
  · simp only [Except.ok.injEq, Prod.mk.injEq] at h
    rw [hc] at ht
    refine shape_plain (by simp [← h.1]) (by simp [← h.1]) ?_
    rw [ht]
    rcases eq_nil_or_eq_of_optional h.2 with rfl | rfl <;> simp
  refine of_ite h (fun hc h => ?_) fun h10 h => ?_
  · simp only [Except.ok.injEq, Prod.mk.injEq] at h
    obtain rfl := List.eq_nil_of_length_eq_zero h.2.symm
    refine shape_plain (by simp [← h.1]) (by simp [← h.1]) ?_
    rw [ht]
    simp only [Bool.or_eq_true, decide_eq_true_eq] at hc
    rcases hc with ((rfl | rfl) | rfl) | rfl <;> simp
  · simp only [Except.ok.injEq, Prod.mk.injEq] at h
    refine shape_run (d := []) ht (.inl h.1.symm) (fun r => ?_) h.2 ?_
    · rw [List.nil_append, reach.eq_def, if_neg h1, if_neg h2, if_neg h3, if_neg h4, if_neg h5,
        if_neg h6, if_neg h7, if_neg h8, if_neg h9, if_neg h10, ← h.1]
      simp
    · simpa using ⟨h4, h1⟩

/-- A string has an opening mark and goes on to the mark that closes it. -/
theorem Whole.text_of_string {t : Token} (h : t.Whole) (hk : t.kind = .string) :
    ∃ m s, (m = [] ∨ m = ['#']) ∧ t.text = m ++ '"' :: s ∧ Closes s := by
  cases h.shape with
  | string _ opens text closes => exact ⟨_, _, opens, text, closes⟩
  | comment kind => simp [kind] at hk
  | char kind => simp [kind] at hk
  | run _ kind => exact absurd hk kind
  | plain _ kind => exact absurd hk kind

end Token

end FormEdit
