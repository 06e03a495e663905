import FormEdit.Proofs.Edit.Substitution
import FormEdit.Proofs.Text.Overlap

set_option autoImplicit false

/-! # How many places a template has

A template is valid if its placeholder is counted once, and a form goes where it first stands. The
count passes over placeholders that overlap, so a template with several places is valid if all of
them overlap the first. For a placeholder that does not overlap itself there are no such templates:
valid are those with one place (`Template.isValid_iff_existsUnique_iff`). -/

namespace FormEdit.Template

variable {p text : List Char} {i : Nat}

theorem isValid_iff (hp : p ≠ []) :
    (Template.mk text p).isValid = true ↔
      ∃ i, StandsAt p text i ∧ ∀ j, StandsAt p text j → i ≤ j ∧ j < i + p.length := by
  rw [← occurrences_eq_one_iff hp]
  exact beq_iff_eq

/-- A form goes into a valid template where the placeholder first stands. -/
theorem render_eq_of_standsAt (hp : p ≠ []) (hvalid : (Template.mk text p).isValid = true)
    (hi : StandsAt p text i) (hleast : ∀ j, StandsAt p text j → i ≤ j) (form : List Char) :
    (Template.mk text p).render form =
      some (text.take i ++ (form ++ text.drop (i + p.length))) := by
  have hplace : (Template.mk text p).HasPlace (text.take i) (text.drop (i + p.length)) :=
    ⟨hp, hvalid, isFirstCut_of_standsAt hi hleast⟩
  exact hplace.render_eq form

/-- One place is enough for a template to be valid. -/
theorem isValid_of_existsUnique (hp : p ≠ []) (h : ∃! i, StandsAt p text i) :
    (Template.mk text p).isValid = true := by
  obtain ⟨i, hi, hone⟩ := h
  refine (isValid_iff hp).2 ⟨i, hi, ?_⟩
  intro j hj
  have hpos : 0 < p.length := List.length_pos_iff.2 hp
  have hij := hone j hj
  omega

/-- A valid template has one place if its placeholder does not overlap itself. -/
theorem existsUnique_of_isValid (hp : p ≠ []) (hapart : ¬ OverlapsItself p)
    (hvalid : (Template.mk text p).isValid = true) : ∃! i, StandsAt p text i := by
  obtain ⟨i, hi, hall⟩ := (isValid_iff hp).1 hvalid
  refine ⟨i, hi, ?_⟩
  intro j hj
  obtain ⟨hle, hnear⟩ := hall j hj
  by_contra hne
  have hlt : i < j := lt_of_le_of_ne hle (Ne.symm hne)
  exact hapart (overlapsItself_of_standsAt hi hj hlt hnear)

/-- A template is valid exactly if its placeholder stands somewhere and every place where it stands
    overlaps the first, which is the one that a form takes. Valid templates are those with exactly
    one place, whatever their text, if and only if the placeholder does not overlap itself. -/
theorem isValid_iff_existsUnique_iff (hp : p ≠ []) :
    (∀ text, (Template.mk text p).isValid = true ↔
      ∃ i, StandsAt p text i ∧ (∀ j, StandsAt p text j → i ≤ j ∧ j < i + p.length) ∧
        ∀ form, (Template.mk text p).render form =
          some (text.take i ++ (form ++ text.drop (i + p.length)))) ∧
    ((∀ text, (Template.mk text p).isValid = true ↔ ∃! i, StandsAt p text i) ↔
      ¬ OverlapsItself p) := by
  constructor
  · intro text
    constructor
    · intro hvalid
      obtain ⟨i, hi, hall⟩ := (isValid_iff hp).1 hvalid
      have hleast : ∀ j, StandsAt p text j → i ≤ j := fun j hj => (hall j hj).1
      exact ⟨i, hi, hall, render_eq_of_standsAt hp hvalid hi hleast⟩
    · rintro ⟨i, hi, hall, -⟩
      exact (isValid_iff hp).2 ⟨i, hi, hall⟩
  · constructor
    · rintro hall hoverlaps
      obtain ⟨text, honce, i, j, hlt, hi, hj⟩ := hoverlaps.counted_once
      have hvalid : (Template.mk text p).isValid = true := beq_iff_eq.2 honce
      have heq : i = j := ((hall text).1 hvalid).unique hi hj
      omega
    · intro hapart text
      exact ⟨existsUnique_of_isValid hp hapart, isValid_of_existsUnique hp⟩

/-- The placeholder that is used when none is chosen does not overlap itself. -/
theorem isValid_iff_existsUnique_default :
    defaultPlaceholder.toList ≠ [] ∧
      ∀ text, (Template.mk text defaultPlaceholder.toList).isValid = true ↔
        ∃! i, StandsAt defaultPlaceholder.toList text i := by
  have hp : defaultPlaceholder.toList ≠ [] := by decide
  exact ⟨hp, (isValid_iff_existsUnique_iff hp).2.2 (by decide)⟩

/-- Two places that overlap are counted once. -/
theorem isValid_with_two_places :
    (Template.mk "aaa".toList "aa".toList).isValid = true ∧
      ¬ ∃! i, StandsAt "aa".toList "aaa".toList i := by
  constructor
  · cbv
  · intro h
    have hfirst : StandsAt "aa".toList "aaa".toList 0 := ⟨['a'], rfl⟩
    have hsecond : StandsAt "aa".toList "aaa".toList 1 := ⟨[], rfl⟩
    exact absurd (h.unique hfirst hsecond) (by decide)

end FormEdit.Template
