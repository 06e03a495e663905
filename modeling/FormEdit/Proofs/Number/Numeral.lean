import FormEdit.Number.Numeral
import FormEdit.Text.Utf8
import Mathlib.Data.List.Induction
import Mathlib.Data.List.TakeWhile
import Mathlib.Data.Nat.Digits.Defs
import Mathlib.Tactic.SplitIfs

set_option autoImplicit false

/-! # Printing and reading numerals

A number that is printed reads back, as long as it has few enough digits (`ofBytes_toString`,
`ofBytes_toString_nat`). What is read never has too many, so every number that is read can be
printed (`printable_of_ofBytes`). -/

namespace FormEdit.Numeral

variable {ds : List Nat} {s : List Symbol} {bs : List UInt8} {n : Int} {m : Nat}
  {negative : Bool}

/-! ## Rows of digits -/

theorem digits_map_digit (ds : List Nat) : digits (ds.map .digit) = ds := by
  induction ds with
  | nil => rfl
  | cons d ds ih => exact congrArg (d :: ·) ih

theorem wellPlaced_map_digit (after : Bool) (ds : List Nat) :
    wellPlaced after (ds.map .digit) = (after || !ds.isEmpty) := by
  induction ds generalizing after with
  | nil => simp [wellPlaced]
  | cons d ds ih => simp [wellPlaced, ih]

theorem isInner_of_mem_map_digit : ∀ x ∈ ds.map Symbol.digit, x.isInner = true := by
  intro x hx
  obtain ⟨d, -, rfl⟩ := List.mem_map.1 hx
  rfl

/-- Digits behind a sign, or behind none, are the number that they denote. -/
theorem ofSymbols_of_digits (hs : takeSign (s.dropWhile (· == .blank)) = (negative, ds.map .digit))
    (hne : ds ≠ []) (hlen : ds.length ≤ maxDigits) :
    ofSymbols s = .ok (if negative then -(value ds : Int) else value ds) := by
  have htake : (ds.map Symbol.digit).takeWhile Symbol.isInner = ds.map .digit :=
    List.takeWhile_eq_self_iff.2 isInner_of_mem_map_digit
  have hdrop : (ds.map Symbol.digit).dropWhile Symbol.isInner = [] :=
    List.dropWhile_eq_nil_iff.2 isInner_of_mem_map_digit
  have hwell : wellPlaced false (ds.map .digit) = true := by
    simpa [wellPlaced_map_digit] using hne
  simp [ofSymbols, hs, htake, hdrop, hwell, digits_map_digit, Nat.not_lt.2 hlen]

theorem mem_of_mem_takeSign {x : Symbol} (h : x ∈ (takeSign s).2) : x ∈ s := by
  unfold takeSign at h
  split at h
  · exact List.mem_cons_of_mem _ h
  · exact List.mem_cons_of_mem _ h
  · exact h

theorem mem_of_mem_digits {d : Nat} (h : d ∈ digits s) : .digit d ∈ s := by
  obtain ⟨x, hx, hd⟩ := List.mem_filterMap.1 h
  cases x <;> simp_all

/-- What is read is a number of few enough digits. -/
theorem exists_digits_of_ofSymbols (h : ofSymbols s = .ok n) :
    ∃ ds, ds.length ≤ maxDigits ∧ n.natAbs = value ds ∧ ∀ d ∈ ds, .digit d ∈ s := by
  have hmem : ∀ d ∈ digits ((takeSign (s.dropWhile (· == .blank))).2.takeWhile Symbol.isInner),
      .digit d ∈ s := fun d hd =>
    (List.dropWhile_sublist _).mem
      (mem_of_mem_takeSign ((List.takeWhile_sublist _).mem (mem_of_mem_digits hd)))
  unfold ofSymbols at h
  dsimp only at h
  split_ifs at h with hwell hlen hrest hneg
  · cases h
    exact ⟨_, Nat.not_lt.1 hlen, by simp, hmem⟩
  · cases h
    exact ⟨_, Nat.not_lt.1 hlen, by simp, hmem⟩

theorem value_concat (ds : List Nat) (d : Nat) : value (ds ++ [d]) = 10 * value ds + d :=
  List.foldl_append ..

theorem value_lt (h : ∀ d ∈ ds, d < 10) : value ds < 10 ^ ds.length := by
  induction ds using List.reverseRecOn with
  | nil => exact Nat.one_pos
  | append_singleton ds d ih =>
    have hd : d < 10 := h d (by simp)
    have hds := ih fun x hx => h x (by simp [hx])
    rw [value_concat, List.length_append, List.length_singleton, Nat.pow_succ]
    omega

/-! ## Bytes -/

theorem lt_of_ofByte {b : UInt8} {d : Nat} (h : Symbol.ofByte b = .digit d) : d < 10 := by
  unfold Symbol.ofByte Symbol.ofAscii at h
  split_ifs at h with h1
  cases h
  simp only [Bool.and_eq_true, decide_eq_true_eq] at h1
  omega

theorem printable_iff : printable n = true ↔ n.natAbs < 10 ^ maxDigits := by
  rw [printable, decide_eq_true_eq, Nat.pow_eq]

/-- Every number that is read can be printed. -/
theorem printable_of_ofBytes (h : ofBytes bs = .ok n) : printable n = true := by
  obtain ⟨ds, hlen, hn, hmem⟩ := exists_digits_of_ofSymbols h
  have hds : ∀ d ∈ ds, d < 10 := by
    intro d hd
    obtain ⟨b, -, hb⟩ := List.mem_map.1 (hmem d hd)
    exact lt_of_ofByte hb
  rw [printable_iff, hn]
  refine lt_of_lt_of_le (value_lt hds) ?_
  exact Nat.pow_le_pow_right (by decide) hlen

/-- What begins with a digit has no sign. -/
theorem nonneg_of_ofBytes_cons {b : UInt8} (hb : 48 ≤ b.toNat ∧ b.toNat ≤ 57)
    (h : ofBytes (b :: bs) = .ok n) : 0 ≤ n := by
  have hdigit : Symbol.ofByte b = .digit (b.toNat - 48) := by
    simp [Symbol.ofByte, Symbol.ofAscii, hb.1, hb.2]
  have hsign : takeSign (((b :: bs).map Symbol.ofByte).dropWhile (· == .blank)) =
      (false, .digit (b.toNat - 48) :: bs.map Symbol.ofByte) := by
    rw [List.map_cons, hdigit]
    rfl
  rw [ofBytes, ofSymbols, hsign] at h
  simp only [Bool.false_eq_true, if_false] at h
  split_ifs at h
  cases h
  exact Int.natCast_nonneg _

theorem toNat_of_isDigit {c : Char} (h : c.isDigit = true) :
    48 ≤ c.toNat ∧ c.toNat ≤ 57 ∧ (UInt8.ofNat c.toNat).toNat = c.toNat := by
  have hc : 48 ≤ c.toNat ∧ c.toNat ≤ 57 := by
    simpa [Char.isDigit, UInt32.le_iff_toNat_le] using h
  exact ⟨hc.1, hc.2, by rw [UInt8.toNat_ofNat', Nat.mod_eq_of_lt (by omega)]⟩

/-- A digit is one byte. -/
theorem encode_of_isDigit {t : List Char} (h : ∀ c ∈ t, c.isDigit = true) :
    Utf8.encode t = t.map fun c => UInt8.ofNat c.toNat := by
  induction t with
  | nil => rfl
  | cons c t ih =>
    have hc : c.val.toNat ≤ 127 := by
      have hle := (toNat_of_isDigit (h c List.mem_cons_self)).2.1
      exact le_trans hle (by decide)
    have hone : String.utf8EncodeChar c = [UInt8.ofNat c.toNat] := by
      rw [String.utf8EncodeChar, if_pos hc]
      rfl
    have ih := ih fun d hd => h d (List.mem_cons_of_mem c hd)
    rw [Utf8.encode, List.flatMap_cons, ← Utf8.encode, ih, hone, List.map_cons,
      List.singleton_append]

/-- The bytes of a printed number. -/
theorem encode_toString (m : Nat) :
    Utf8.encode (toString m).toList = (Nat.toDigits 10 m).map fun c => UInt8.ofNat c.toNat := by
  rw [Nat.toString_eq_ofList_toDigits, String.toList_ofList]
  exact encode_of_isDigit fun c hc => Nat.isDigit_of_mem_toDigits (by decide) (by decide) hc

theorem isDigit_of_mem_encode {b : UInt8} (h : b ∈ Utf8.encode (toString m).toList) :
    48 ≤ b.toNat ∧ b.toNat ≤ 57 := by
  rw [encode_toString] at h
  obtain ⟨c, hc, rfl⟩ := List.mem_map.1 h
  obtain ⟨hlo, hhi, heq⟩ :=
    toNat_of_isDigit (Nat.isDigit_of_mem_toDigits (by decide) (by decide) hc)
  omega

theorem encode_toString_ne_nil (m : Nat) : Utf8.encode (toString m).toList ≠ [] := by
  rw [encode_toString]
  simp

/-- The digits of a printed number are digits that denote it. -/
theorem exists_digits_toString (m : Nat) :
    ∃ ds, (Utf8.encode (toString m).toList).map Symbol.ofByte = ds.map .digit ∧ ds ≠ [] ∧
      (m < 10 ^ maxDigits → ds.length ≤ maxDigits) ∧ value ds = m := by
  refine ⟨(Nat.toDigits 10 m).map fun c => c.toNat - 48, ?_, ?_, ?_, ?_⟩
  · rw [encode_toString, List.map_map, List.map_map]
    refine List.map_congr_left fun c hc => ?_
    obtain ⟨hlo, hhi, heq⟩ :=
      toNat_of_isDigit (Nat.isDigit_of_mem_toDigits (by decide) (by decide) hc)
    simp [Symbol.ofByte, Symbol.ofAscii, heq, hlo, hhi]
  · simp
  · rw [List.length_map]
    exact Nat.toDigits_length 10 m maxDigits (by decide)
  · rw [value, List.foldl_map]
    exact (Nat.ofDigitChars_eq_foldl).symm.trans Nat.ofDigitChars_ten_toDigits

theorem encode_toString_negSucc (m : Nat) :
    Utf8.encode (toString (Int.negSucc m)).toList =
      45 :: Utf8.encode (toString (m + 1)).toList := by
  show Utf8.encode ("-" ++ toString (m + 1)).toList = _
  rw [String.toList_append]
  rfl

/-- A printed number is made of digits, with a minus if it is negative. -/
theorem le_of_mem_encode_toString {b : UInt8} (h : b ∈ Utf8.encode (toString n).toList) :
    b.toNat ≤ 57 := by
  cases n with
  | ofNat m => exact (isDigit_of_mem_encode (m := m) h).2
  | negSucc m =>
    rw [encode_toString_negSucc, List.mem_cons] at h
    rcases h with rfl | h
    · decide
    · exact (isDigit_of_mem_encode h).2

/-! ## Back again -/

theorem ofBytes_toString_nat (h : m < 10 ^ maxDigits) :
    ofBytes (Utf8.encode (toString m).toList) = .ok (m : Int) := by
  obtain ⟨ds, hmap, hne, hlen, hval⟩ := exists_digits_toString m
  have hsign :
      takeSign ((ds.map Symbol.digit).dropWhile (· == .blank)) = (false, ds.map .digit) := by
    cases ds with
    | nil => rfl
    | cons d ds => rfl
  rw [ofBytes, hmap, ofSymbols_of_digits hsign hne (hlen h), hval]
  rfl

/-- A number that can be printed reads back. -/
theorem ofBytes_toString (h : printable n = true) :
    ofBytes (Utf8.encode (toString n).toList) = .ok n := by
  rw [printable_iff] at h
  cases n with
  | ofNat m => exact ofBytes_toString_nat h
  | negSucc m =>
    obtain ⟨ds, hmap, hne, hlen, hval⟩ := exists_digits_toString (m + 1)
    have hsign : takeSign ((Symbol.minus :: ds.map .digit).dropWhile (· == .blank)) =
        (true, ds.map .digit) := rfl
    have hminus : Symbol.ofByte 45 = .minus := by decide
    rw [ofBytes, encode_toString_negSucc, List.map_cons, hminus, hmap,
      ofSymbols_of_digits hsign hne (hlen h), hval]
    rfl

/-- A number that reads back has few enough digits. -/
theorem lt_of_ofBytes_toString (h : ofBytes (Utf8.encode (toString m).toList) = .ok n) :
    m < 10 ^ maxDigits := by
  obtain ⟨ds, hmap, hne, -, hval⟩ := exists_digits_toString m
  have hds : ∀ d ∈ ds, d < 10 := by
    intro d hd
    have hmem : Symbol.digit d ∈ (Utf8.encode (toString m).toList).map Symbol.ofByte := by
      rw [hmap]
      exact List.mem_map_of_mem hd
    obtain ⟨b, -, hb⟩ := List.mem_map.1 hmem
    exact lt_of_ofByte hb
  have hlen : ds.length ≤ maxDigits := by
    obtain ⟨d, ds, rfl⟩ := List.exists_cons_of_ne_nil hne
    have htake : ((d :: ds).map Symbol.digit).takeWhile Symbol.isInner = (d :: ds).map .digit :=
      List.takeWhile_eq_self_iff.2 isInner_of_mem_map_digit
    have hsign : takeSign (((d :: ds).map Symbol.digit).dropWhile (· == .blank)) =
        (false, (d :: ds).map .digit) := rfl
    rw [ofBytes, hmap, ofSymbols, hsign] at h
    simp only [htake, digits_map_digit] at h
    split_ifs at h with hwell hlong
    all_goals exact Nat.not_lt.1 hlong
  rw [← hval]
  exact lt_of_lt_of_le (value_lt hds) (Nat.pow_le_pow_right (by decide) hlen)

end FormEdit.Numeral
