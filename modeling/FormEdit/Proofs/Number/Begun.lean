import FormEdit.Proofs.Number.Numeral

set_option autoImplicit false

/-! # Numerals that have begun

Symbols are a numeral exactly if they are laid out as one: blanks, a sign or none, digits with
single underscores between them, and blanks (`exists_ofSymbols_iff`). A cut through such a row
leaves a numeral, or symbols that one more digit makes one. So what has come can become a numeral
exactly if it is one or one more digit makes it one (`begins_of_append`, `exists_of_begins`). -/

namespace FormEdit.Numeral

variable {s t front sign body back : List Symbol} {bs more : List UInt8} {n : Int}

/-! ## The layout of a numeral -/

/-- Whether symbols are the blanks, the sign, the digits and the blanks of a numeral. -/
structure Parts (front sign body back : List Symbol) : Prop where
  front : ∀ x ∈ front, x = .blank
  sign : sign = [] ∨ sign = [.plus] ∨ sign = [.minus]
  placed : wellPlaced false body = true
  few : (digits body).length ≤ maxDigits
  back : ∀ x ∈ back, x = .blank

theorem isInner_of_wellPlaced {after : Bool} (h : wellPlaced after body = true) :
    ∀ x ∈ body, x.isInner = true := by
  induction body generalizing after with
  | nil => intro x hx; cases hx
  | cons y body ih =>
    intro x hx
    cases y with
    | digit d =>
      rcases List.mem_cons.1 hx with rfl | hx
      · rfl
      · exact ih h x hx
    | underscore =>
      rcases List.mem_cons.1 hx with rfl | hx
      · rfl
      · exact ih (Bool.and_eq_true_iff.1 h).2 x hx
    | plus => cases h
    | minus => cases h
    | blank => cases h
    | other => cases h

/-- Well placed digits begin with one. -/
theorem exists_digit_cons (h : wellPlaced false body = true) :
    ∃ d r, body = .digit d :: r := by
  cases body with
  | nil => cases h
  | cons x r =>
    cases x with
    | digit d => exact ⟨d, r, rfl⟩
    | underscore => cases h
    | plus => cases h
    | minus => cases h
    | blank => cases h
    | other => cases h

theorem exists_sign (s : List Symbol) :
    ∃ sign, s = sign ++ (takeSign s).2 ∧ (sign = [] ∨ sign = [.plus] ∨ sign = [.minus]) := by
  unfold takeSign
  split
  · exact ⟨[.plus], rfl, .inr (.inl rfl)⟩
  · exact ⟨[.minus], rfl, .inr (.inr rfl)⟩
  · exact ⟨[], rfl, .inl rfl⟩

theorem eq_blank_of_mem_takeWhile {x : Symbol} (h : x ∈ s.takeWhile (· == .blank)) :
    x = .blank := by
  simpa using List.mem_takeWhile_imp h

/-- What is read has the layout of a numeral. -/
theorem exists_parts_of_ofSymbols (h : ofSymbols s = .ok n) :
    ∃ front sign body back, s = front ++ (sign ++ (body ++ back)) ∧ Parts front sign body back := by
  obtain ⟨sign, hs, hsign⟩ := exists_sign (s.dropWhile (· == .blank))
  unfold ofSymbols at h
  dsimp only at h
  split_ifs at h with hwell hlen hrest
  all_goals
    refine ⟨s.takeWhile (· == .blank), sign, _, _, ?_, fun x hx => eq_blank_of_mem_takeWhile hx,
      hsign, by simpa using hwell, Nat.not_lt.1 hlen, by simpa using hrest⟩
    rw [List.takeWhile_append_dropWhile, ← hs, List.takeWhile_append_dropWhile]

theorem takeSign_of_parts (h : Parts front sign body back) :
    ∃ negative, takeSign (sign ++ (body ++ back)) = (negative, body ++ back) := by
  obtain ⟨d, r, rfl⟩ := exists_digit_cons h.placed
  rcases h.sign with rfl | rfl | rfl
  · exact ⟨false, rfl⟩
  · exact ⟨false, rfl⟩
  · exact ⟨true, rfl⟩

/-- Behind the blanks there is none, be there a sign or none. -/
theorem dropWhile_of_parts (h : Parts front sign body back) :
    (front ++ (sign ++ (body ++ back))).dropWhile (· == .blank) = sign ++ (body ++ back) := by
  have hfront : ∀ x ∈ front, (x == Symbol.blank) = true := by
    intro x hx
    rw [h.front x hx]
    rfl
  obtain ⟨d, r, rfl⟩ := exists_digit_cons h.placed
  rw [List.dropWhile_append_of_pos hfront]
  rcases h.sign with rfl | rfl | rfl <;> rfl

/-- What has the layout of a numeral is read. -/
theorem Parts.exists_ofSymbols (h : Parts front sign body back) :
    ∃ n, ofSymbols (front ++ (sign ++ (body ++ back))) = .ok n := by
  obtain ⟨negative, hsign⟩ := takeSign_of_parts h
  have hinner := isInner_of_wellPlaced h.placed
  have hback : ∀ x ∈ back, ¬ x.isInner = true := by
    intro x hx
    rw [h.back x hx]
    decide
  have htake : (body ++ back).takeWhile Symbol.isInner = body := by
    rw [List.takeWhile_append_of_pos hinner]
    cases back with
    | nil => simp
    | cons x back =>
      rw [List.takeWhile_cons_of_neg (hback x List.mem_cons_self), List.append_nil]
  have hdrop : (body ++ back).dropWhile Symbol.isInner = back := by
    rw [List.dropWhile_append_of_pos hinner]
    cases back with
    | nil => rfl
    | cons x back => rw [List.dropWhile_cons_of_neg (hback x List.mem_cons_self)]
  have hblank : (back.all (· == .blank)) = true := by
    simpa using h.back
  unfold ofSymbols
  simp [dropWhile_of_parts h, hsign, htake, hdrop, h.placed, Nat.not_lt.2 h.few, hblank]

theorem exists_ofSymbols_iff :
    (∃ n, ofSymbols s = .ok n) ↔
      ∃ front sign body back, s = front ++ (sign ++ (body ++ back)) ∧
        Parts front sign body back := by
  constructor
  · rintro ⟨n, h⟩
    exact exists_parts_of_ofSymbols h
  · rintro ⟨front, sign, body, back, rfl, h⟩
    exact h.exists_ofSymbols

/-! ## Cuts through a numeral -/

theorem digits_append (s t : List Symbol) : digits (s ++ t) = digits s ++ digits t :=
  List.filterMap_append ..

/-- In place of what follows, one digit is well placed. -/
theorem wellPlaced_concat {after : Bool} (h : wellPlaced after (s ++ t) = true) (d : Nat) :
    wellPlaced after (s ++ [.digit d]) = true := by
  induction s generalizing after with
  | nil => rfl
  | cons x s ih =>
    cases x with
    | digit e => exact ih h
    | underscore =>
      obtain ⟨hafter, hrest⟩ := Bool.and_eq_true_iff.1 h
      exact Bool.and_eq_true_iff.2 ⟨hafter, ih hrest⟩
    | plus => cases h
    | minus => cases h
    | blank => cases h
    | other => cases h

/-- Well placed digits end with one, so what is cut off holds one. -/
theorem digits_ne_nil_of_append {after : Bool} (h : wellPlaced after (s ++ t) = true)
    (ht : t ≠ []) : digits t ≠ [] := by
  induction s generalizing after with
  | nil =>
    cases t with
    | nil => exact absurd rfl ht
    | cons x t =>
      cases x with
      | digit d => simp [digits]
      | underscore =>
        obtain ⟨d, r, rfl⟩ := exists_digit_cons (Bool.and_eq_true_iff.1 h).2
        simp [digits]
      | plus => cases h
      | minus => cases h
      | blank => cases h
      | other => cases h
  | cons x s ih =>
    cases x with
    | digit d => exact ih h
    | underscore => exact ih (Bool.and_eq_true_iff.1 h).2
    | plus => cases h
    | minus => cases h
    | blank => cases h
    | other => cases h

/-- One digit behind blanks and a sign is a numeral. -/
theorem parts_digit (hfront : ∀ x ∈ front, x = .blank)
    (hsign : sign = [] ∨ sign = [.plus] ∨ sign = [.minus]) : Parts front sign [.digit 0] [] where
  front := hfront
  sign := hsign
  placed := rfl
  few := by decide
  back := by intro x hx; cases hx

/-- In place of the digits that are cut off, one is enough. -/
theorem Parts.cut_body (h : Parts front sign (s ++ t) back) (ht : t ≠ []) :
    Parts front sign (s ++ [.digit 0]) [] where
  front := h.front
  sign := h.sign
  placed := wellPlaced_concat h.placed 0
  few := by
    have hcut : 0 < (digits t).length :=
      List.length_pos_iff.2 (digits_ne_nil_of_append h.placed ht)
    have hall : (digits s).length + (digits t).length ≤ maxDigits := by
      rw [← List.length_append, ← digits_append]
      exact h.few
    have hone : (digits [.digit 0]).length = 1 := rfl
    rw [digits_append, List.length_append, hone]
    omega
  back := by intro x hx; cases hx

/-- The blanks behind a numeral may be cut off. -/
theorem Parts.cut_back (h : Parts front sign body (s ++ t)) : Parts front sign body s where
  front := h.front
  sign := h.sign
  placed := h.placed
  few := h.few
  back := fun x hx => h.back x (List.mem_append_left t hx)

/-- What is left of a numeral in front of a cut is one, or one more digit makes it one. The cut may
    go through any of its four parts. -/
theorem ofSymbols_of_append (h : ofSymbols (s ++ t) = .ok n) :
    (∃ m, ofSymbols s = .ok m) ∨ ∃ m, ofSymbols (s ++ [.digit 0]) = .ok m := by
  obtain ⟨front, sign, body, back, hs, hparts⟩ := exists_ofSymbols_iff.1 ⟨n, h⟩
  rcases List.append_eq_append_iff.1 hs with ⟨u, rfl, -⟩ | ⟨u, rfl, hu⟩
  · have hfront : ∀ x ∈ s, x = .blank := fun x hx => hparts.front x (List.mem_append_left u hx)
    exact .inr (parts_digit hfront (.inl rfl)).exists_ofSymbols
  rcases List.append_eq_append_iff.1 hu.symm with ⟨v, hsign, -⟩ | ⟨v, rfl, hv⟩
  · have hcut : u = [] ∨ u = [.plus] ∨ u = [.minus] := by
      rcases hparts.sign with rfl | rfl | rfl
      · exact .inl (List.append_eq_nil_iff.1 hsign.symm).1
      · exact (List.append_eq_singleton_iff.1 hsign.symm).imp (·.1) fun h => .inl h.1
      · exact (List.append_eq_singleton_iff.1 hsign.symm).imp (·.1) fun h => .inr h.1
    have hdigit := (parts_digit hparts.front hcut).exists_ofSymbols
    rw [List.append_nil, ← List.append_assoc] at hdigit
    exact .inr hdigit
  rcases List.append_eq_append_iff.1 hv.symm with ⟨w, rfl, -⟩ | ⟨w, rfl, rfl⟩
  · by_cases hw : w = []
    · -- The cut is behind the last digit.
      have hwhole : Parts front sign v ([] ++ back) := by
        simpa [hw] using hparts
      have hok := hwhole.cut_back.exists_ofSymbols
      rw [List.append_nil] at hok
      exact .inl hok
    · have hok := (hparts.cut_body hw).exists_ofSymbols
      rw [List.append_nil, ← List.append_assoc, ← List.append_assoc] at hok
      rw [← List.append_assoc]
      exact .inr hok
  · exact .inl hparts.cut_back.exists_ofSymbols

/-! ## Bytes -/

/-- Whether bytes are a numeral or one more digit makes them one. -/
def begins (bs : List UInt8) : Bool := (ofBytes bs).isOk || (ofBytes (bs ++ [48])).isOk

theorem isOk_iff {ε α : Type} {x : Except ε α} : x.isOk = true ↔ ∃ a, x = .ok a := by
  cases x with
  | error e => exact ⟨nofun, nofun⟩
  | ok a => exact ⟨fun _ => ⟨a, rfl⟩, fun _ => rfl⟩

theorem begins_iff :
    begins bs = true ↔ (∃ n, ofBytes bs = .ok n) ∨ ∃ n, ofBytes (bs ++ [48]) = .ok n := by
  rw [begins, Bool.or_eq_true, isOk_iff, isOk_iff]

/-- The beginning of a numeral begins one. -/
theorem begins_of_append (h : ofBytes (bs ++ more) = .ok n) : begins bs = true := by
  rw [ofBytes, List.map_append] at h
  rw [begins_iff, ofBytes, ofBytes, List.map_append]
  exact ofSymbols_of_append h

/-- What begins a numeral is one with nothing or one digit behind it. -/
theorem exists_of_begins (h : begins bs = true) :
    ∃ more n, (more = [] ∨ more = [48]) ∧ ofBytes (bs ++ more) = .ok n := by
  rcases begins_iff.1 h with ⟨n, hn⟩ | ⟨n, hn⟩
  · exact ⟨[], n, .inl rfl, by rwa [List.append_nil]⟩
  · exact ⟨[48], n, .inr rfl, hn⟩

end FormEdit.Numeral
