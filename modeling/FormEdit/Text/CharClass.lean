set_option autoImplicit false

/-! # Classes of characters

A class of characters is a list of closed ranges of code points. The modules beside this one name
the classes that the readers and printers of this library ask about. -/

namespace FormEdit

/-- A class of characters, as closed ranges of code points in increasing order. -/
structure CharClass where
  ranges : List (Nat × Nat)

namespace CharClass

/-- Whether a character's code point lies in one of the ranges. -/
def contains (k : CharClass) (c : Char) : Bool :=
  k.ranges.any fun r => r.1 ≤ c.toNat && c.toNat ≤ r.2

theorem contains_iff (k : CharClass) (c : Char) :
    k.contains c = true ↔ ∃ r ∈ k.ranges, r.1 ≤ c.toNat ∧ c.toNat ≤ r.2 := by
  simp [contains]

/-- Classes of which each range of one ends before or starts behind each of the other have no
    character in common. -/
theorem not_contains_of_apart {k l : CharClass}
    (h : ∀ r ∈ k.ranges, ∀ s ∈ l.ranges, r.2 < s.1 ∨ s.2 < r.1) {c : Char}
    (hc : k.contains c = true) : l.contains c = false := by
  rw [Bool.eq_false_iff]
  intro hl
  obtain ⟨r, hr, hrc⟩ := (contains_iff k c).1 hc
  obtain ⟨s, hs, hsc⟩ := (contains_iff l c).1 hl
  have := h r hr s hs
  omega

end CharClass

end FormEdit
