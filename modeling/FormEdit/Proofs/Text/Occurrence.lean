import FormEdit.Text.Occurrence

set_option autoImplicit false

/-! # Cutting a text at the first occurrence of another

The two pieces that a cut gives and what was looked for between them make up the text, and no
occurrence starts further left. A text in which something is counted can be cut at it. -/

namespace FormEdit

/-- Whether `head` and `tail` stand around the first occurrence of `p` in `t`. -/
def IsFirstCut (p t head tail : List Char) : Prop :=
  t = head ++ (p ++ tail) ∧ ∀ u v, t = u ++ (p ++ v) → head.length ≤ u.length

theorem isFirstCut_cons {p r head tail : List Char} {c : Char} (hc : ¬p.isPrefixOf (c :: r))
    (h : IsFirstCut p r head tail) : IsFirstCut p (c :: r) (c :: head) tail := by
  refine ⟨by rw [h.1, List.cons_append], fun u v huv => ?_⟩
  cases u with
  | nil =>
    refine absurd ?_ hc
    rw [huv, List.nil_append, List.isPrefixOf_iff_prefix]
    exact List.prefix_append p v
  | cons d u =>
    rw [List.cons_append] at huv
    have := h.2 u v (List.cons.inj huv).2
    simpa using this

theorem cutFrom_eq_some {p before t head tail : List Char}
    (h : cutFrom p before t = some (head, tail)) :
    ∃ s, head = before.reverse ++ s ∧ IsFirstCut p t s tail := by
  induction t generalizing before with
  | nil =>
    rw [cutFrom] at h
    split at h
    · next hp =>
      cases h
      exact ⟨[], by simp, by simpa using hp, by simp⟩
    · cases h
  | cons c r ih =>
    rw [cutFrom] at h
    split at h
    · next hp =>
      cases h
      obtain ⟨v, hv⟩ := List.isPrefixOf_iff_prefix.1 hp
      refine ⟨[], by simp, ?_, by simp⟩
      rw [← hv, List.drop_left, List.nil_append]
    · next hp =>
      obtain ⟨s, rfl, hs⟩ := ih h
      exact ⟨c :: s, by simp, isFirstCut_cons hp hs⟩

/-- A text is cut at the first occurrence. -/
theorem isFirstCut_of_cutAt {p t head tail : List Char} (h : cutAt p t = some (head, tail)) :
    IsFirstCut p t head tail := by
  obtain ⟨s, rfl, hs⟩ := cutFrom_eq_some h
  simpa using hs

/-- There is one first occurrence. -/
theorem IsFirstCut.unique {p t head tail head' tail' : List Char} (h : IsFirstCut p t head tail)
    (h' : IsFirstCut p t head' tail') : head = head' ∧ tail = tail' := by
  have hle := h.2 _ _ h'.1
  have hge := h'.2 _ _ h.1
  have heq : head ++ (p ++ tail) = head' ++ (p ++ tail') := h.1.symm.trans h'.1
  obtain ⟨hhead, hrest⟩ := List.append_inj heq (Nat.le_antisymm hle hge)
  exact ⟨hhead, List.append_cancel_left hrest⟩

/-- A text stands in itself at its front. -/
theorem isFirstCut_self (p : List Char) : IsFirstCut p p [] [] := ⟨by simp, by simp⟩

theorem occurrences_self {p : List Char} (hp : p ≠ []) : occurrences p p = 1 := by
  obtain ⟨c, r, rfl⟩ := List.exists_cons_of_ne_nil hp
  rw [occurrences, if_neg (by simp), countFrom, if_pos (by simp), List.length_cons,
    Nat.add_sub_cancel, List.drop_length, countFrom]

theorem countFrom_of_cutFrom_eq_none {p before t : List Char} (h : cutFrom p before t = none)
    (n : Nat) : countFrom p n t = n := by
  induction t generalizing before with
  | nil => rw [countFrom]
  | cons c r ih =>
    rw [cutFrom] at h
    split at h
    · cases h
    · next hp => rw [countFrom, if_neg hp, ih h]

/-- What occurs once in a text is found there. -/
theorem cutAt_ne_none {p t : List Char} (hp : p ≠ []) (h : occurrences p t = 1) :
    cutAt p t ≠ none := by
  intro hcut
  rw [occurrences, if_neg (by simpa using hp), countFrom_of_cutFrom_eq_none hcut] at h
  cases h

/-- What occurs once in a text is found where it first occurs. -/
theorem cutAt_of_isFirstCut {p t head tail : List Char} (hp : p ≠ []) (h : occurrences p t = 1)
    (hcut : IsFirstCut p t head tail) : cutAt p t = some (head, tail) := by
  obtain ⟨⟨head', tail'⟩, hfound⟩ := Option.ne_none_iff_exists'.1 (cutAt_ne_none hp h)
  obtain ⟨rfl, rfl⟩ := hcut.unique (isFirstCut_of_cutAt hfound)
  exact hfound

end FormEdit
