import FormEdit.Proofs.Text.Occurrence
import Mathlib.Data.List.Infix

set_option autoImplicit false

/-! # Occurrences that overlap

Counting passes over an occurrence whole, so it does not see those that overlap the one it has just
counted. A text is counted once in another exactly if it stands there and every place where it
stands overlaps the first (`occurrences_eq_one_iff`). Places that overlap come from a text whose end
is its beginning (`overlapsItself_of_standsAt`), and each such text overlaps itself in a text in
which it is counted once (`OverlapsItself.counted_once`). -/

namespace FormEdit

variable {p t r : List Char} {i j k n : Nat} {c : Char}

/-! ## Places -/

/-- Whether `p` stands in `t` behind `i` characters. -/
def StandsAt (p t : List Char) (i : Nat) : Prop := p <+: t.drop i

theorem standsAt_drop : StandsAt p (t.drop k) i ↔ StandsAt p t (k + i) := by
  unfold StandsAt
  rw [List.drop_drop]

theorem not_standsAt_nil (hp : p ≠ []) (i : Nat) : ¬ StandsAt p [] i := by
  intro h
  unfold StandsAt at h
  rw [List.drop_nil, List.prefix_nil] at h
  exact hp h

/-- A place and what follows it are inside of the text. -/
theorem StandsAt.add_length_le (hp : p ≠ []) (h : StandsAt p t i) : i + p.length ≤ t.length := by
  have hlen : p.length ≤ (t.drop i).length := List.IsPrefix.length_le h
  have hpos : 0 < p.length := List.length_pos_iff.2 hp
  rw [List.length_drop] at hlen
  omega

theorem StandsAt.eq_append (h : StandsAt p t i) :
    t = t.take i ++ (p ++ t.drop (i + p.length)) := by
  obtain ⟨v, hv⟩ := h
  have hdrop : t.drop (i + p.length) = v := by
    rw [← List.drop_drop, ← hv, List.drop_left]
  rw [hdrop, hv, List.take_append_drop]

theorem standsAt_length (u v : List Char) : StandsAt p (u ++ (p ++ v)) u.length := by
  unfold StandsAt
  rw [List.drop_left]
  exact List.prefix_append p v

/-- A text is cut at the least of the places. -/
theorem isFirstCut_of_standsAt (h : StandsAt p t i)
    (hleast : ∀ j, StandsAt p t j → i ≤ j) :
    IsFirstCut p t (t.take i) (t.drop (i + p.length)) := by
  refine ⟨h.eq_append, ?_⟩
  rintro u v rfl
  rw [List.length_take]
  exact le_trans (Nat.min_le_left _ _) (hleast _ (standsAt_length u v))

/-! ## Counting -/

theorem le_countFrom (p : List Char) (n : Nat) (t : List Char) : n ≤ countFrom p n t := by
  fun_induction countFrom p n t with
  | case1 n => exact Nat.le_refl n
  | case2 n c r h ih => omega
  | case3 n c r h ih => exact ih

/-- Nothing is counted exactly if there is no place. -/
theorem countFrom_eq_self_iff (hp : p ≠ []) (n : Nat) (t : List Char) :
    countFrom p n t = n ↔ ∀ i, ¬ StandsAt p t i := by
  fun_induction countFrom p n t with
  | case1 n => exact ⟨fun _ i => not_standsAt_nil hp i, fun _ => rfl⟩
  | case2 n c r h ih =>
    have hle := le_countFrom p (n + 1) (r.drop (p.length - 1))
    constructor
    · intro heq
      omega
    · intro hnone
      exact absurd (List.isPrefixOf_iff_prefix.1 h) (hnone 0)
  | case3 n c r h ih =>
    rw [ih]
    constructor
    · intro hnone i
      cases i with
      | zero => exact fun hi => h (List.isPrefixOf_iff_prefix.2 hi)
      | succ i => exact hnone i
    · intro hnone i
      exact hnone (i + 1)

/-- One is counted exactly if all places overlap the first. -/
theorem countFrom_eq_succ_iff (hp : p ≠ []) (n : Nat) (t : List Char) :
    countFrom p n t = n + 1 ↔
      ∃ i, StandsAt p t i ∧ ∀ j, StandsAt p t j → i ≤ j ∧ j < i + p.length := by
  fun_induction countFrom p n t with
  | case1 n =>
    constructor
    · intro h
      omega
    · rintro ⟨i, hi, -⟩
      exact absurd hi (not_standsAt_nil hp i)
  | case2 n c r h ih =>
    have hpos : 0 < p.length := List.length_pos_iff.2 hp
    have hdrop : r.drop (p.length - 1) = (c :: r).drop p.length := by
      rw [← Nat.sub_add_cancel hpos, List.drop_succ_cons, Nat.add_sub_cancel]
    have hfirst : StandsAt p (c :: r) 0 := List.isPrefixOf_iff_prefix.1 h
    rw [countFrom_eq_self_iff hp, hdrop]
    constructor
    · intro hnone
      refine ⟨0, hfirst, ?_⟩
      intro j hj
      refine ⟨Nat.zero_le j, ?_⟩
      by_contra hfar
      refine hnone (j - p.length) (standsAt_drop.2 ?_)
      rwa [show p.length + (j - p.length) = j by omega]
    · rintro ⟨i, -, hall⟩ j hj
      have hi := (hall 0 hfirst).1
      have hlt := (hall _ (standsAt_drop.1 hj)).2
      omega
  | case3 n c r h ih =>
    have hfirst : ¬ StandsAt p (c :: r) 0 := fun hi => h (List.isPrefixOf_iff_prefix.2 hi)
    rw [ih]
    constructor
    · rintro ⟨i, hi, hall⟩
      refine ⟨i + 1, hi, ?_⟩
      intro j hj
      cases j with
      | zero => exact absurd hj hfirst
      | succ j =>
        have hij := hall j hj
        omega
    · rintro ⟨i, hi, hall⟩
      cases i with
      | zero => exact absurd hi hfirst
      | succ i =>
        refine ⟨i, hi, ?_⟩
        intro j hj
        have hij := hall (j + 1) hj
        omega

theorem occurrences_eq_one_iff (hp : p ≠ []) :
    occurrences p t = 1 ↔
      ∃ i, StandsAt p t i ∧ ∀ j, StandsAt p t j → i ≤ j ∧ j < i + p.length := by
  rw [occurrences, if_neg (by simpa using hp)]
  exact countFrom_eq_succ_iff hp 0 t

/-! ## Texts that overlap themselves -/

/-- Whether a text goes on at its end as it begins, so that two of it can share characters. -/
def OverlapsItself (p : List Char) : Prop := ∃ k < p.length, 0 < k ∧ p.drop k <+: p

instance (p : List Char) : Decidable (OverlapsItself p) :=
  inferInstanceAs (Decidable (∃ k < p.length, 0 < k ∧ p.drop k <+: p))

/-- Two places that overlap are those of a text that overlaps itself. -/
theorem overlapsItself_of_standsAt (hi : StandsAt p t i) (hj : StandsAt p t j) (hlt : i < j)
    (hnear : j < i + p.length) : OverlapsItself p := by
  refine ⟨j - i, by omega, by omega, ?_⟩
  have hrest : p.drop (j - i) <+: t.drop j := by
    have hdrop := List.IsPrefix.drop hi (j - i)
    rwa [List.drop_drop, show i + (j - i) = j by omega] at hdrop
  refine List.prefix_of_prefix_length_le hrest hj ?_
  rw [List.length_drop]
  omega

/-- A text that overlaps itself stands at two places of a text in which it is counted once. -/
theorem OverlapsItself.counted_once (h : OverlapsItself p) :
    ∃ t, occurrences p t = 1 ∧ ∃ i j, i < j ∧ StandsAt p t i ∧ StandsAt p t j := by
  obtain ⟨k, hk, hpos, hprefix⟩ := h
  have hp : p ≠ [] := by
    rintro rfl
    exact absurd hk (Nat.not_lt_zero k)
  have hzero : StandsAt p (p.take k ++ p) 0 := by
    have hfront : p.take k ++ p.drop k <+: p.take k ++ p :=
      (List.prefix_append_right_inj (p.take k)).2 hprefix
    rwa [List.take_append_drop] at hfront
  have hlen : (p.take k).length = k := by
    rw [List.length_take]
    omega
  have hsecond : StandsAt p (p.take k ++ p) k := by
    have hat := standsAt_length (p := p) (p.take k) []
    rwa [hlen, List.append_nil] at hat
  refine ⟨p.take k ++ p, (occurrences_eq_one_iff hp).2 ⟨0, hzero, ?_⟩, 0, k, hpos, hzero, hsecond⟩
  intro j hj
  have hle := hj.add_length_le hp
  rw [List.length_append, hlen] at hle
  omega

end FormEdit
