import FormEdit.Text.Utf8
import Mathlib.Tactic.SplitIfs

set_option autoImplicit false

/-! # Writing and reading UTF-8

A character is spelled with one to four bytes (`Spelling`). What is read as a character is a
spelling, and writing the character gives its bytes again (`exists_spelling`,
`Spelling.encodeChar`); what is written is a spelling, and reading stops behind it
(`spelling_encodeChar`, `Spelling.readChar`). So reading and writing undo each other
(`decode_encode`, `encode_of_decode`). Replacement makes a text longer, at most by three bytes for
one (`length_encode_decodeLossy_le`). A text is written unless it holds surrogates
(`write_of_writable`, `exists_write_error`). -/

namespace FormEdit.Utf8

variable {b b₂ : UInt8} {r s bs : List UInt8} {c : Char} {n v : Nat} {t : List Char}

theorem isContinuation_iff : isContinuation b = true ↔ 0x80 ≤ b.toNat ∧ b.toNat < 0xc0 := by
  simp only [isContinuation, Bool.and_eq_true, decide_eq_true_eq, UInt8.le_iff_toNat_le,
    UInt8.reduceToNat]
  omega

/-- The bytes that may follow are those that continue a character and keep its number in range. -/
theorem mayFollow_iff :
    mayFollow b b₂ = true ↔
      (0x80 ≤ b₂.toNat ∧ b₂.toNat < 0xc0) ∧ (b.toNat = 0xe0 → 0xa0 ≤ b₂.toNat) ∧
        (b.toNat = 0xed → b₂.toNat < 0xa0) ∧ (b.toNat = 0xf0 → 0x90 ≤ b₂.toNat) ∧
        (b.toNat = 0xf4 → b₂.toNat < 0x90) := by
  unfold mayFollow
  simp only [← UInt8.toNat_inj]
  split_ifs <;>
    simp only [isContinuation_iff, Bool.and_eq_true, decide_eq_true_eq, UInt8.le_iff_toNat_le,
      UInt8.reduceToNat] at * <;>
    omega

/-- A spelling of a character: its leading byte, the bytes that continue it and its number. -/
inductive Spelling : UInt8 → List UInt8 → Nat → Prop
  | one {b : UInt8} (lead : b.toNat < 0x80) : Spelling b [] b.toNat
  | two {b b₂ : UInt8} (lead : 0xc2 ≤ b.toNat ∧ b.toNat < 0xe0)
    (second : mayFollow b b₂ = true) :
    Spelling b [b₂] (b.toNat % 32 * 64 + payload b₂)
  | three {b b₂ b₃ : UInt8} (lead : 0xe0 ≤ b.toNat ∧ b.toNat < 0xf0)
    (second : mayFollow b b₂ = true) (third : isContinuation b₃ = true) :
    Spelling b [b₂, b₃] ((b.toNat % 16 * 64 + payload b₂) * 64 + payload b₃)
  | four {b b₂ b₃ b₄ : UInt8} (lead : 0xf0 ≤ b.toNat ∧ b.toNat < 0xf5)
    (second : mayFollow b b₂ = true) (third : isContinuation b₃ = true)
    (fourth : isContinuation b₄ = true) :
    Spelling b [b₂, b₃, b₄]
      (((b.toNat % 8 * 64 + payload b₂) * 64 + payload b₃) * 64 + payload b₄)

/-! ## Reading a spelling -/

theorem Spelling.readChar (h : Spelling b s v) (rest : List UInt8) :
    readChar b (s ++ rest) = .ok (Char.ofNat v, s.length) := by
  have hlt : ∀ k : UInt8, b < k ↔ b.toNat < k.toNat := fun k => UInt8.lt_iff_toNat_lt
  have hgt : (0xf4 : UInt8) < b ↔ 0xf4 < b.toNat := UInt8.lt_iff_toNat_lt
  cases h with
  | one lead => simp [Utf8.readChar.eq_def, hlt, lead]
  | two lead second =>
    have h1 : ¬ b.toNat < 128 := by omega
    have h2 : ¬ b.toNat < 194 := by omega
    have h3 : ¬ 244 < b.toNat := by omega
    simp [Utf8.readChar.eq_def, hlt, hgt, h1, h2, h3, lead.2, second]
  | three lead second third =>
    have h1 : ¬ b.toNat < 128 := by omega
    have h2 : ¬ b.toNat < 194 := by omega
    have h3 : ¬ 244 < b.toNat := by omega
    have h4 : ¬ b.toNat < 224 := by omega
    simp [Utf8.readChar.eq_def, hlt, hgt, h1, h2, h3, h4, lead.2, second, third]
  | four lead second third fourth =>
    have h1 : ¬ b.toNat < 128 := by omega
    have h2 : ¬ b.toNat < 194 := by omega
    have h3 : ¬ 244 < b.toNat := by omega
    have h4 : ¬ b.toNat < 224 := by omega
    have h5 : ¬ b.toNat < 240 := by omega
    simp [Utf8.readChar.eq_def, hlt, hgt, h1, h2, h3, h4, h5, second, third, fourth]

theorem exists_spelling (h : readChar b r = .ok (c, n)) :
    ∃ v, Spelling b (r.take n) v ∧ c = Char.ofNat v := by
  have hlt : ∀ k : UInt8, b < k ↔ b.toNat < k.toNat := fun k => UInt8.lt_iff_toNat_lt
  have hgt : (0xf4 : UInt8) < b ↔ 0xf4 < b.toNat := UInt8.lt_iff_toNat_lt
  simp only [Utf8.readChar.eq_def, hlt, hgt, Bool.or_eq_true, decide_eq_true_eq,
    UInt8.reduceToNat] at h
  split_ifs at h with h1 h2 h3 h4
  · cases h
    exact ⟨_, .one h1, rfl⟩
  · cases r with
    | nil => cases h
    | cons b₂ r =>
      dsimp only at h
      split_ifs at h with hs
      cases h
      exact ⟨_, .two (by omega) (by simpa using hs), rfl⟩
  · rcases r with - | ⟨b₂, - | ⟨b₃, r⟩⟩
    · cases h
    · dsimp only at h
      split_ifs at h
    · dsimp only at h
      split_ifs at h with hs ht
      cases h
      exact ⟨_, .three (by omega) (by simpa using hs) (by simpa using ht), rfl⟩
  · rcases r with - | ⟨b₂, - | ⟨b₃, - | ⟨b₄, r⟩⟩⟩
    · cases h
    · dsimp only at h
      split_ifs at h
    · dsimp only at h
      split_ifs at h
    · dsimp only at h
      split_ifs at h with hs ht hf
      cases h
      have h₂ : mayFollow b b₂ = true := by simpa using hs
      exact ⟨_, .four (by omega) h₂ (by simpa using ht) (by simpa using hf), rfl⟩

/-! ## Writing a spelling -/

theorem Spelling.isValidChar (h : Spelling b s v) : v.isValidChar := by
  cases h with
  | one lead => exact .inl (by omega)
  | two lead second =>
    simp only [payload]
    exact .inl (by omega)
  | three lead second third =>
    rw [mayFollow_iff] at second
    simp only [payload, Nat.isValidChar]
    omega
  | four lead second third fourth =>
    rw [mayFollow_iff] at second
    simp only [payload, Nat.isValidChar]
    omega

theorem Spelling.encodeChar (h : Spelling b s v) :
    String.utf8EncodeChar (Char.ofNat v) = b :: s := by
  have hv : (Char.ofNat v).val.toNat = v := by
    rw [Char.ofNat, dif_pos h.isValidChar]
    rfl
  have hb := b.toNat_lt
  have hp : ∀ x : UInt8, payload x = x.toNat % 64 := fun _ => rfl
  have byte : ∀ {m : Nat} {x : UInt8}, m = x.toNat → UInt8.ofNat m = x := by
    rintro m x rfl
    exact UInt8.ofNat_toNat
  simp only [String.utf8EncodeChar, hv]
  cases h with
  | one lead => rw [if_pos (by omega), byte rfl]
  | @two b₂ lead second =>
    have h₂ := hp b₂
    rw [mayFollow_iff] at second
    rw [if_neg (by omega), if_pos (by omega), byte (x := b) (by omega), byte (x := b₂) (by omega)]
  | @three b₂ b₃ lead second third =>
    have h₂ := hp b₂
    have h₃ := hp b₃
    rw [mayFollow_iff] at second
    rw [isContinuation_iff] at third
    rw [if_neg (by omega), if_neg (by omega), if_pos (by omega), byte (x := b) (by omega),
      byte (x := b₂) (by omega), byte (x := b₃) (by omega)]
  | @four b₂ b₃ b₄ lead second third fourth =>
    have h₂ := hp b₂
    have h₃ := hp b₃
    have h₄ := hp b₄
    rw [mayFollow_iff] at second
    rw [isContinuation_iff] at third fourth
    rw [if_neg (by omega), if_neg (by omega), if_neg (by omega), byte (x := b) (by omega),
      byte (x := b₂) (by omega), byte (x := b₃) (by omega), byte (x := b₄) (by omega)]

theorem spelling_encodeChar (c : Char) :
    ∃ b s, String.utf8EncodeChar c = b :: s ∧ Spelling b s c.toNat := by
  obtain ⟨v, hv⟩ : ∃ v, c.toNat = v := ⟨_, rfl⟩
  have hval : c.val.toNat = v := hv
  have hc : v < 0xd800 ∨ 0xdfff < v ∧ v < 0x110000 := hv ▸ c.valid
  have hp : ∀ x : UInt8, payload x = x.toNat % 64 := fun _ => rfl
  have byte : ∀ m : Nat, m < 256 → ∃ x : UInt8, UInt8.ofNat m = x ∧ x.toNat = m := by
    intro m hm
    exact ⟨_, rfl, by rw [UInt8.toNat_ofNat', Nat.mod_eq_of_lt hm]⟩
  -- The bytes that continue a character are the same in all spellings, counted from the end.
  obtain ⟨x, ex, hx⟩ := byte (v % 64 + 128) (by omega)
  obtain ⟨y, ey, hy⟩ := byte (v / 64 % 64 + 128) (by omega)
  obtain ⟨z, ez, hz⟩ := byte (v / 4096 % 64 + 128) (by omega)
  simp only [String.utf8EncodeChar, hval, hv, ex, ey, ez]
  split_ifs
  · obtain ⟨b, e, hb⟩ := byte v (by omega)
    refine ⟨b, [], by rw [e], ?_⟩
    have hs : Spelling b [] b.toNat := .one (by omega)
    rwa [hb] at hs
  · obtain ⟨b, e, hb⟩ := byte (v / 64 % 32 + 192) (by omega)
    refine ⟨b, [x], by rw [e], ?_⟩
    have hs : Spelling b [x] _ := .two (by omega) (mayFollow_iff.2 (by omega))
    have hnum : b.toNat % 32 * 64 + payload x = v := by rw [hp]; omega
    rwa [hnum] at hs
  · obtain ⟨b, e, hb⟩ := byte (v / 4096 % 16 + 224) (by omega)
    refine ⟨b, [y, x], by rw [e], ?_⟩
    have hs : Spelling b [y, x] _ :=
      .three (by omega) (mayFollow_iff.2 (by omega)) (isContinuation_iff.2 (by omega))
    have hnum : (b.toNat % 16 * 64 + payload y) * 64 + payload x = v := by rw [hp, hp]; omega
    rwa [hnum] at hs
  · obtain ⟨b, e, hb⟩ := byte (v / 262144 % 8 + 240) (by omega)
    refine ⟨b, [z, y, x], by rw [e], ?_⟩
    have hs : Spelling b [z, y, x] _ :=
      .four (by omega) (mayFollow_iff.2 (by omega)) (isContinuation_iff.2 (by omega))
        (isContinuation_iff.2 (by omega))
    have hnum : ((b.toNat % 8 * 64 + payload z) * 64 + payload y) * 64 + payload x = v := by
      rw [hp, hp, hp]
      omega
    rwa [hnum] at hs

/-! ## Texts -/

theorem encode_nil : encode [] = [] := rfl

theorem encode_cons (c : Char) (t : List Char) :
    encode (c :: t) = String.utf8EncodeChar c ++ encode t := List.flatMap_cons

theorem decodeFrom_encode (place : Nat) (done t : List Char) :
    decodeFrom place done (encode t) = .ok (done.reverse ++ t) := by
  induction t generalizing place done with
  | nil => rw [encode_nil, decodeFrom, List.append_nil]
  | cons c t ih =>
    obtain ⟨b, s, he, hs⟩ := spelling_encodeChar c
    have hread := hs.readChar (encode t)
    rw [Char.ofNat_toNat] at hread
    rw [encode_cons, he, List.cons_append, decodeFrom, hread]
    simp only [List.drop_left, ih, List.reverse_cons, List.append_assoc, List.singleton_append]

/-- What is written reads back. -/
theorem decode_encode (t : List Char) : decode (encode t) = .ok t := by
  rw [decode, decodeFrom_encode, List.reverse_nil, List.nil_append]

theorem encode_injective {t u : List Char} (h : encode t = encode u) : t = u := by
  have hd := decode_encode t
  rw [h, decode_encode] at hd
  exact (Except.ok.inj hd).symm

theorem encode_of_decodeFrom {place : Nat} {done : List Char}
    (h : decodeFrom place done bs = .ok t) : ∃ u, t = done.reverse ++ u ∧ encode u = bs := by
  fun_induction decodeFrom place done bs with
  | case1 place done =>
    cases h
    exact ⟨[], by rw [List.append_nil], rfl⟩
  | case2 place done b r c n hread ih =>
    obtain ⟨v, hs, rfl⟩ := exists_spelling hread
    obtain ⟨u, rfl, hu⟩ := ih h
    refine ⟨Char.ofNat v :: u, by simp, ?_⟩
    rw [encode_cons, hs.encodeChar, hu, List.cons_append, List.take_append_drop]
  | case3 => cases h

/-- What is read is what would be written. -/
theorem encode_of_decode (h : decode bs = .ok t) : encode t = bs := by
  obtain ⟨u, rfl, hu⟩ := encode_of_decodeFrom h
  exact hu

/-! ## Replacement -/

theorem decodeLossyFrom_encode (done t : List Char) :
    decodeLossyFrom done (encode t) = done.reverse ++ t := by
  induction t generalizing done with
  | nil => rw [encode_nil, decodeLossyFrom, List.append_nil]
  | cons c t ih =>
    obtain ⟨b, s, he, hs⟩ := spelling_encodeChar c
    have hread := hs.readChar (encode t)
    rw [Char.ofNat_toNat] at hread
    rw [encode_cons, he, List.cons_append, decodeLossyFrom, hread]
    simp only [List.drop_left, ih, List.reverse_cons, List.append_assoc, List.singleton_append]

/-- In what is written there is nothing to replace. -/
theorem decodeLossy_encode (t : List Char) : decodeLossy (encode t) = t := by
  rw [decodeLossy, decodeLossyFrom_encode, List.reverse_nil, List.nil_append]

/-- Reading with replacement puts three bytes in the place of at least one. -/
theorem length_encode_decodeLossyFrom_le (done : List Char) (bs : List UInt8) :
    (encode (decodeLossyFrom done bs)).length ≤ (encode done.reverse).length + 3 * bs.length := by
  have happ : ∀ (t : List Char) (c : Char), (encode (t ++ [c])).length =
      (encode t).length + (String.utf8EncodeChar c).length := fun t c => by
    simp [encode]
  fun_induction decodeLossyFrom done bs with
  | case1 done => omega
  | case2 done b r c n hread ih =>
    obtain ⟨v, hs, rfl⟩ := exists_spelling hread
    rw [List.reverse_cons, happ, hs.encodeChar, List.length_cons] at ih
    have htake := congrArg List.length (List.take_append_drop n r)
    rw [List.length_append] at htake
    rw [List.length_cons]
    omega
  | case3 done b r flaw span hread ih =>
    have hthree : (String.utf8EncodeChar '\ufffd').length = 3 := by decide
    rw [List.reverse_cons, happ, hthree, List.length_drop] at ih
    rw [List.length_cons]
    omega

theorem length_encode_decodeLossy_le (bs : List UInt8) :
    (encode (decodeLossy bs)).length ≤ 3 * bs.length := by
  have h := length_encode_decodeLossyFrom_le [] bs
  rwa [List.reverse_nil, encode_nil, List.length_nil, Nat.zero_add] at h

/-! ## Surrogates -/

variable {u : StandIns}

/-- Whether a text holds no surrogates. -/
def Writable (u : StandIns) (t : List Char) : Prop := ∀ c ∈ t, u.lookup c = none

instance (u : StandIns) (t : List Char) : Decidable (Writable u t) :=
  List.decidableBAll (fun c => u.lookup c = none) t

theorem unwritableFrom?_eq_none_iff (place : Nat) :
    unwritableFrom? u place t = none ↔ Writable u t := by
  induction t generalizing place with
  | nil => simp [unwritableFrom?, Writable]
  | cons c r ih =>
    rw [unwritableFrom?, Writable, List.forall_mem_cons]
    cases hc : u.lookup c with
    | some surrogate => simp
    | none => exact (ih _).trans (and_iff_right rfl).symm

theorem write_of_writable (h : Writable u t) : write u t = .ok (encode t) := by
  rw [write, (unwritableFrom?_eq_none_iff 0).2 h]

theorem exists_write_error (h : ¬ Writable u t) : ∃ x, write u t = .error x := by
  obtain ⟨x, hx⟩ := Option.ne_none_iff_exists'.1 (mt (unwritableFrom?_eq_none_iff 0).1 h)
  exact ⟨x, by rw [write, hx]⟩

/-- What is written is a text without surrogates. -/
theorem write_eq_ok_iff : write u t = .ok bs ↔ Writable u t ∧ encode t = bs := by
  by_cases h : Writable u t
  · simp [write_of_writable h, h]
  · obtain ⟨x, hx⟩ := exists_write_error h
    simp [hx, h]

end FormEdit.Utf8
