import FormEdit.Command.Basic
import FormEdit.Proofs.Number.Numeral
import FormEdit.Value.Order
import Mathlib.Data.Set.List

set_option autoImplicit false

/-! # Whole numbers among values

A parameter that is a whole number may come as one, as a float that equals it, or as a text that
writes it in decimal digits with blanks around them. Such a text is found by how its characters
look, and more look like digits than there are decimal digits; these texts, and those of too many
digits, are misread. A parameter that is not misread is taken for the number that it stands for, if
it stands for one (`wholeParameter_eq_some_iff`, `wholeParameter_eq_error_iff`). -/

namespace FormEdit

/-! ## Blanks around a text -/

section Trim

variable {p : Char → Bool} {before core behind t : List Char}

theorem trimEnds_append (hbefore : ∀ c ∈ before, p c = true) (hcore : ∀ c ∈ core, p c = false)
    (hbehind : ∀ c ∈ behind, p c = true) : trimEnds p (before ++ core ++ behind) = core := by
  have hfront : (before ++ core ++ behind).dropWhile p = (core ++ behind).dropWhile p := by
    rw [List.append_assoc, List.dropWhile_append_of_pos hbefore]
  rw [trimEnds, hfront]
  cases core with
  | nil => simp [List.dropWhile_eq_nil_iff.2 hbehind]
  | cons c core =>
    have hc : ¬ p c = true := by simp [hcore c List.mem_cons_self]
    have hreverse : ∀ c ∈ behind.reverse, p c = true := by simpa using hbehind
    rw [List.cons_append, List.dropWhile_cons_of_neg hc, ← List.cons_append, List.reverse_append,
      List.dropWhile_append_of_pos hreverse, List.dropWhile_eq_self_iff.2, List.reverse_reverse]
    intro hlength
    simpa using hcore _ (List.mem_reverse.1 (List.getElem_mem hlength))

/-- Around a text without its ends stands what was left out. -/
theorem exists_trimEnds_append (p : Char → Bool) (t : List Char) :
    ∃ before behind, t = before ++ trimEnds p t ++ behind ∧ (∀ c ∈ before, p c = true) ∧
      ∀ c ∈ behind, p c = true := by
  refine ⟨t.takeWhile p, ((t.dropWhile p).reverse.takeWhile p).reverse, ?_,
    fun c hc => List.mem_takeWhile_imp hc,
    fun c hc => List.mem_takeWhile_imp (List.mem_reverse.1 hc)⟩
  rw [trimEnds, List.append_assoc, ← List.reverse_append, List.takeWhile_append_dropWhile,
    List.reverse_reverse, List.takeWhile_append_dropWhile]

end Trim

/-! ## Digits and what looks like them -/

variable {c : Char} {d : Nat} {ds : List Nat} {t : List Char}

/-- The decimal digits of all scripts. -/
def decimalClass : CharClass := ⟨decimalZeros.map fun z => (z, z + 9)⟩

theorem decimalClass_contains (h : decimalDigit? c = some d) : decimalClass.contains c = true := by
  obtain ⟨z, hz, -⟩ := Option.map_eq_some_iff.1 h
  have hrange := List.find?_some hz
  simp only [Bool.and_eq_true, decide_eq_true_eq] at hrange
  exact (decimalClass.contains_iff c).2
    ⟨_, List.mem_map_of_mem (List.mem_of_find?_eq_some hz), hrange⟩

theorem digitLike_of_decimalDigit? (h : decimalDigit? c = some d) : isDigitLike c = true := by
  rw [isDigitLike, h]
  rfl

/-- Without being a decimal digit a character looks like one only as one of a class. -/
theorem digitLikeClass_contains (h : isDigitLike c = true) (hd : decimalDigit? c = none) :
    digitLikeClass.contains c = true := by
  rw [isDigitLike, hd] at h
  simpa using h

theorem isBlank_of_isDigitLike (h : isDigitLike c = true) : isBlank c = false := by
  cases hd : decimalDigit? c with
  | none => exact CharClass.not_contains_of_apart (by decide +kernel) (digitLikeClass_contains h hd)
  | some d => exact CharClass.not_contains_of_apart (by decide +kernel) (decimalClass_contains hd)

namespace Numeral

theorem Symbol.ofChar_of_decimalDigit? (h : decimalDigit? c = some d) : ofChar c = .digit d := by
  unfold ofChar
  split
  · next hascii =>
    obtain ⟨z, hz, rfl⟩ := Option.map_eq_some_iff.1 h
    have hmem := List.mem_of_find?_eq_some hz
    have hrange := List.find?_some hz
    simp only [Bool.and_eq_true, decide_eq_true_eq] at hrange
    have hzeros : ∀ z ∈ decimalZeros, z = 48 ∨ 127 ≤ z := by decide
    obtain rfl : z = 48 := by
      have := hzeros z hmem
      omega
    rw [ofAscii, if_pos (by simpa using hrange)]
  · rw [isBlank_of_isDigitLike (digitLike_of_decimalDigit? h), h]
    rfl

theorem Symbol.ofChar_of_isDigitLike (h : isDigitLike c = true) (hd : decimalDigit? c = none) :
    ofChar c = .other := by
  have hclass := digitLikeClass_contains h hd
  obtain ⟨r, hr, hrange⟩ := (digitLikeClass.contains_iff c).1 hclass
  have habove : ∀ r ∈ digitLikeClass.ranges, 127 ≤ r.1 := by decide
  have hc : ¬ c.toNat < 127 := by
    have := habove r hr
    omega
  rw [ofChar, if_neg hc, isBlank_of_isDigitLike h, hd]
  rfl

/-- The symbols of a text are digits exactly if its characters are. -/
theorem map_ofChar_of_digits (h : t.map decimalDigit? = ds.map some) :
    t.map Symbol.ofChar = ds.map .digit := by
  induction t generalizing ds with
  | nil =>
    cases ds with
    | nil => rfl
    | cons d ds => cases h
  | cons c t ih =>
    cases ds with
    | nil => cases h
    | cons d ds =>
      obtain ⟨hc, ht⟩ := List.cons.inj h
      rw [List.map_cons, Symbol.ofChar_of_decimalDigit? hc, ih ht, List.map_cons]

theorem takeSign_map_digit (ds : List Nat) :
    takeSign ((ds.map Symbol.digit).dropWhile (· == .blank)) = (false, ds.map .digit) := by
  cases ds <;> rfl

/-- Decimal digits are read as the number that they denote. -/
theorem ofText_of_digits (h : t.map decimalDigit? = ds.map some) (hne : ds ≠ [])
    (hlen : ds.length ≤ maxDigits) : ofText t = .ok (value ds : Int) := by
  rw [ofText, map_ofChar_of_digits h, ofSymbols_of_digits (takeSign_map_digit ds) hne hlen]
  rfl

/-- What is read without blanks and signs are digits, and not too many. -/
theorem digits_of_ofSymbols {s : List Symbol} {n : Int}
    (hs : ∀ x ∈ s, x = .other ∨ ∃ d, x = .digit d) (h : ofSymbols s = .ok n) :
    .other ∉ s ∧ s.length ≤ maxDigits := by
  have hsign : takeSign (s.dropWhile (· == .blank)) = (false, s) := by
    cases s with
    | nil => rfl
    | cons x s => rcases hs x List.mem_cons_self with rfl | ⟨d, rfl⟩ <;> rfl
  rw [ofSymbols, hsign] at h
  simp only [Bool.false_eq_true, if_false] at h
  split_ifs at h with hwell hlen hrest
  -- Nothing is behind the digits, since it would be blank.
  have hinner : s.dropWhile Symbol.isInner = [] := by
    rw [List.eq_nil_iff_forall_not_mem]
    intro x hx
    have hblank : x = .blank := by
      simp only [Bool.not_eq_true', Bool.not_eq_false, List.all_eq_true, beq_iff_eq] at hrest
      exact hrest x hx
    rcases hs x ((List.dropWhile_sublist _).mem hx) with rfl | ⟨d, rfl⟩ <;> cases hblank
  rw [List.dropWhile_eq_nil_iff] at hinner
  have hdigits : ∀ x ∈ s, x ∈ Set.range Symbol.digit := by
    intro x hx
    rcases hs x hx with rfl | ⟨d, rfl⟩
    · cases hinner _ hx
    · exact ⟨d, rfl⟩
  obtain ⟨ds, rfl⟩ : s ∈ Set.range (List.map Symbol.digit) := by
    rw [Set.range_list_map]
    exact hdigits
  rw [List.takeWhile_eq_self_iff.2 hinner, digits_map_digit] at hlen
  exact ⟨fun hother => absurd (hinner _ hother) (by decide), by simpa using hlen⟩

end Numeral

/-! ## Floats that are whole -/

theorem Binary.quotient_den_pos (m : Nat) (e : Int) : 0 < (quotient m e).2 := by
  unfold quotient
  split
  · exact Nat.one_pos
  · exact Nat.pow_pos (by decide)

/-- A float is taken for a whole number if it equals that number. -/
theorem Binary.whole?_eq_some_iff {x : Float} {n : Int} :
    (ofFloat x).whole? = some n ↔ Value.same (.float x) (.int n) = true := by
  have hsame : Value.same (.float x) (.int n) = (Magnitude.ofFloat x).same (.quotient n 1) := by
    simp [Value.same, Value.magnitude?]
  rw [hsame, Magnitude.ofFloat]
  cases ofFloat x with
  | nan => simp [whole?, Magnitude.same]
  | infinite negative => simp [whole?, Magnitude.same]
  | finite negative m e =>
    have hden := quotient_den_pos m e
    simp only [whole?, truncate?]
    generalize quotient m e = q at hden
    obtain ⟨num, den⟩ := q
    dsimp only at hden ⊢
    rw [Magnitude.same, beq_iff_eq]
    by_cases hwhole : num % den = 0
    · obtain ⟨k, rfl⟩ := Nat.dvd_of_mod_eq_zero hwhole
      rw [if_pos hwhole, Nat.mul_div_cancel_left k hden, Option.some.injEq]
      have hden' : (den : Int) ≠ 0 := by omega
      have hsign : (if negative = true then -((den * k : Nat) : Int) else (den * k : Nat)) * (1 : Nat)
          = (if negative = true then -(k : Int) else k) * den := by
        cases negative <;> simp <;> ring
      rw [hsign]
      exact (mul_left_inj' hden').symm
    · -- Without being a multiple of the denominator, the numerator denotes no whole number.
      rw [if_neg hwhole]
      refine iff_of_false nofun fun h => hwhole (Nat.mod_eq_zero_of_dvd ?_)
      have hdvd : (den : Int) ∣ (if negative = true then -(num : Int) else num) :=
        ⟨n, by rw [mul_comm]; simpa using h⟩
      cases negative <;> simpa [Int.natCast_dvd_natCast] using hdvd

/-! ## What a parameter stands for -/

/-- Whether a value is a whole number: such a number, a float that equals it, or a text that writes
    it in decimal digits, with blanks around them or without. -/
inductive StandsFor : Value → Int → Prop
  | int (n : Int) : StandsFor (.int n) n
  | float {x : Float} {n : Int} (h : Value.same (.float x) (.int n) = true) :
    StandsFor (.float x) n
  | digits {s : String} {before core behind : List Char} {ds : List Nat}
    (hs : s.toList = before ++ core ++ behind) (hbefore : ∀ c ∈ before, isBlank c = true)
    (hbehind : ∀ c ∈ behind, isBlank c = true) (hcore : core.map decimalDigit? = ds.map some)
    (hne : ds ≠ []) : StandsFor (.text s) (Numeral.value ds)

/-- Whether a text is of characters that look like digits. -/
def LooksLikeDigits (t : List Char) : Prop := t ≠ [] ∧ ∀ c ∈ t, isDigitLike c = true

/-- Whether a value is a text that looks like digits without its blank ends and is no numeral: it
    has characters that are no decimal digits, or too many of them. -/
def Misread : Value → Prop
  | .text s =>
    LooksLikeDigits (strip s.toList) ∧
      ((∃ c ∈ strip s.toList, decimalDigit? c = none) ∨
        Numeral.maxDigits < (strip s.toList).length)
  | _ => False

theorem length_eq_of_digits (h : t.map decimalDigit? = ds.map some) : t.length = ds.length := by
  simpa using congrArg List.length h

theorem exists_digit_of_mem (h : t.map decimalDigit? = ds.map some) (hc : c ∈ t) :
    ∃ d, decimalDigit? c = some d := by
  have hmem : decimalDigit? c ∈ ds.map some := by
    rw [← h]
    exact List.mem_map_of_mem hc
  obtain ⟨d, -, hd⟩ := List.mem_map.1 hmem
  exact ⟨d, hd.symm⟩

theorem isDigitLike_of_digits (h : t.map decimalDigit? = ds.map some) :
    ∀ c ∈ t, isDigitLike c = true := by
  intro c hc
  obtain ⟨d, hd⟩ := exists_digit_of_mem h hc
  exact digitLike_of_decimalDigit? hd

/-- A text stands for a number if it is decimal digits without its blank ends. -/
theorem standsFor_text_iff {s : String} {n : Int} :
    StandsFor (.text s) n ↔
      ∃ ds, (strip s.toList).map decimalDigit? = ds.map some ∧ ds ≠ [] ∧ n = Numeral.value ds := by
  constructor
  · intro h
    cases h with
    | digits hs hbefore hbehind hcore hne =>
      have hcore' := fun c hc => isBlank_of_isDigitLike (isDigitLike_of_digits hcore c hc)
      refine ⟨_, ?_, hne, rfl⟩
      rw [hs, strip, trimEnds_append hbefore hcore' hbehind, hcore]
  · rintro ⟨ds, hds, hne, rfl⟩
    obtain ⟨before, behind, hs, hbefore, hbehind⟩ := exists_trimEnds_append isBlank s.toList
    exact .digits hs hbefore hbehind hds hne

theorem exists_digits_of_ne_none (h : ∀ c ∈ t, decimalDigit? c ≠ none) :
    ∃ ds : List Nat, t.map decimalDigit? = ds.map some := by
  have hrange : t.map decimalDigit? ∈ Set.range (List.map some) := by
    rw [Set.range_list_map]
    intro x hx
    obtain ⟨c, hc, rfl⟩ := List.mem_map.1 hx
    obtain ⟨d, hd⟩ := Option.ne_none_iff_exists.1 (h c hc)
    exact ⟨d, hd⟩
  obtain ⟨ds, hds⟩ := hrange
  exact ⟨ds, hds.symm⟩

/-- What looks like digits is a numeral exactly if it is decimal digits and not too many. -/
theorem ofText_eq_ok_iff {n : Int} (hlike : ∀ c ∈ t, isDigitLike c = true) :
    Numeral.ofText t = .ok n ↔
      ∃ ds, t.map decimalDigit? = ds.map some ∧ ds ≠ [] ∧ ds.length ≤ Numeral.maxDigits ∧
        n = Numeral.value ds := by
  constructor
  · intro h
    have hplain : ∀ x ∈ t.map Numeral.Symbol.ofChar, x = .other ∨ ∃ d, x = .digit d := by
      intro x hx
      obtain ⟨c, hc, rfl⟩ := List.mem_map.1 hx
      cases hd : decimalDigit? c with
      | none => exact .inl (Numeral.Symbol.ofChar_of_isDigitLike (hlike c hc) hd)
      | some d => exact .inr ⟨d, Numeral.Symbol.ofChar_of_decimalDigit? hd⟩
    obtain ⟨hother, hlen⟩ := Numeral.digits_of_ofSymbols hplain h
    have hdigits : ∀ c ∈ t, decimalDigit? c ≠ none := by
      intro c hc hd
      rw [← Numeral.Symbol.ofChar_of_isDigitLike (hlike c hc) hd] at hother
      exact hother (List.mem_map_of_mem hc)
    obtain ⟨ds, hds⟩ := exists_digits_of_ne_none hdigits
    rw [List.length_map, length_eq_of_digits hds] at hlen
    have hne : ds ≠ [] := by
      rintro rfl
      rw [List.map_nil, List.map_eq_nil_iff] at hds
      rw [hds] at h
      cases h
    rw [Numeral.ofText_of_digits hds hne hlen] at h
    exact ⟨ds, hds, hne, hlen, (Except.ok.inj h).symm⟩
  · rintro ⟨ds, hds, hne, hlen, rfl⟩
    exact Numeral.ofText_of_digits hds hne hlen

/-- A text is misread if it looks like digits and is no numeral. -/
theorem misread_text_iff {s : String} :
    Misread (.text s) ↔
      LooksLikeDigits (strip s.toList) ∧ ∀ n, Numeral.ofText (strip s.toList) ≠ .ok n := by
  rw [Misread]
  refine and_congr_right fun ⟨hne, hlike⟩ => ?_
  simp only [ne_eq, ofText_eq_ok_iff hlike]
  constructor
  · rintro hbad n ⟨ds, hds, -, hlen, -⟩
    rcases hbad with ⟨c, hc, hnone⟩ | hlong
    · obtain ⟨d, hd⟩ := exists_digit_of_mem hds hc
      rw [hnone] at hd
      cases hd
    · rw [length_eq_of_digits hds] at hlong
      exact Nat.not_lt.2 hlen hlong
  · intro hno
    by_contra! hgood
    obtain ⟨ds, hds⟩ := exists_digits_of_ne_none hgood.1
    have hlength := length_eq_of_digits hds
    refine hno _ ⟨ds, hds, ?_, hlength ▸ hgood.2, rfl⟩
    rintro rfl
    exact hne (List.length_eq_zero_iff.1 hlength)

theorem looksLikeDigits_of_standsFor {s : String} {n : Int} (h : StandsFor (.text s) n) :
    LooksLikeDigits (strip s.toList) := by
  obtain ⟨ds, hds, hne, -⟩ := standsFor_text_iff.1 h
  refine ⟨fun hnil => hne ?_, isDigitLike_of_digits hds⟩
  rw [hnil, List.map_nil] at hds
  exact List.map_eq_nil_iff.1 hds.symm

theorem wholeParameter_of_looksLikeDigits {s : String} (h : LooksLikeDigits (strip s.toList)) :
    wholeParameter (.text s) =
      match Numeral.ofText (strip s.toList) with
      | .ok n => .ok (some n)
      | .error e => .error (.badValue (e.message (strip s.toList))) := by
  unfold wholeParameter
  exact if_neg (by simpa [LooksLikeDigits] using h)

theorem wholeParameter_of_not_looksLikeDigits {s : String}
    (h : ¬ LooksLikeDigits (strip s.toList)) : wholeParameter (.text s) = .ok none := by
  unfold wholeParameter
  refine if_pos ?_
  by_contra hlooks
  exact h (by simpa [LooksLikeDigits] using hlooks)

/-- A parameter is taken for no number but the one that it stands for, and for that one unless it is
    misread. -/
theorem wholeParameter_eq_some_iff {v : Value} {n : Int} :
    wholeParameter v = .ok (some n) ↔ StandsFor v n ∧ ¬ Misread v := by
  cases v with
  | int m =>
    constructor
    · intro h
      cases h
      exact ⟨.int _, id⟩
    · rintro ⟨h, -⟩
      cases h
      rfl
  | float x =>
    rw [wholeParameter, Except.ok.injEq, Binary.whole?_eq_some_iff]
    constructor
    · exact fun h => ⟨.float h, id⟩
    · rintro ⟨h, -⟩
      cases h with
      | float h => exact h
  | text s =>
    by_cases hlooks : LooksLikeDigits (strip s.toList)
    · have hread : wholeParameter (.text s) = .ok (some n) ↔
          Numeral.ofText (strip s.toList) = .ok n := by
        rw [wholeParameter_of_looksLikeDigits hlooks]
        cases Numeral.ofText (strip s.toList) <;> simp
      rw [hread, standsFor_text_iff, misread_text_iff]
      constructor
      · intro hok
        obtain ⟨ds, hds, hne, -, hn⟩ := (ofText_eq_ok_iff hlooks.2).1 hok
        exact ⟨⟨ds, hds, hne, hn⟩, fun hmisread => hmisread.2 n hok⟩
      · rintro ⟨⟨ds, hds, -, rfl⟩, hmisread⟩
        obtain ⟨m, hok⟩ : ∃ m, Numeral.ofText (strip s.toList) = .ok m := by
          by_contra! hno
          exact hmisread ⟨hlooks, hno⟩
        obtain ⟨ds', hds', -, -, rfl⟩ := (ofText_eq_ok_iff hlooks.2).1 hok
        rw [hds] at hds'
        rw [hok, (List.map_inj_right fun _ _ => Option.some.inj).1 hds']
    · rw [wholeParameter_of_not_looksLikeDigits hlooks]
      exact iff_of_false nofun fun h => hlooks (looksLikeDigits_of_standsFor h.1)
  | _ => exact iff_of_false nofun fun h => nomatch h.1

theorem wholeParameter_eq_error_iff {v : Value} :
    (∃ e, wholeParameter v = .error e) ↔ Misread v := by
  cases v with
  | text s =>
    rw [misread_text_iff]
    by_cases hlooks : LooksLikeDigits (strip s.toList)
    · rw [wholeParameter_of_looksLikeDigits hlooks, and_iff_right hlooks]
      cases Numeral.ofText (strip s.toList) <;> simp
    · rw [wholeParameter_of_not_looksLikeDigits hlooks]
      exact iff_of_false nofun fun h => hlooks h.1
  | _ => exact iff_of_false nofun id

/-- Otherwise a parameter is taken for none. -/
theorem wholeParameter_eq_none_iff {v : Value} :
    wholeParameter v = .ok none ↔ (∀ n, ¬ StandsFor v n) ∧ ¬ Misread v := by
  constructor
  · intro h
    have hmisread : ¬ Misread v := by
      rw [← wholeParameter_eq_error_iff, h]
      exact nofun
    refine ⟨fun n hn => ?_, hmisread⟩
    have hsome := wholeParameter_eq_some_iff.2 ⟨hn, hmisread⟩
    rw [h] at hsome
    cases hsome
  · rintro ⟨hnone, hmisread⟩
    cases h : wholeParameter v with
    | error e => exact absurd (wholeParameter_eq_error_iff.1 ⟨e, h⟩) hmisread
    | ok line =>
      cases line with
      | none => rfl
      | some n => exact absurd (wholeParameter_eq_some_iff.1 h).1 (hnone n)

end FormEdit
