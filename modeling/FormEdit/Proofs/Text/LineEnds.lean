import FormEdit.Command.Outside
import Mathlib.Data.List.Infix

set_option autoImplicit false

/-! # Line ends of two kinds

A formatter gives a text back with line feeds alone, and carriage returns are put back before every
line feed if the text had any. This gives the text as it was exactly if its line ends are of one
kind (`keepLineEnds_lineFeeds_iff`). Of two carriage returns before a line feed one is left, and it
looks as if line ends had been kept. -/

namespace FormEdit

variable {p t r : List Char} {c : Char}

/-- The text with every carriage return and line feed made a line feed. -/
def lineFeeds : List Char → List Char
  | [] => []
  | '\r' :: '\n' :: r => '\n' :: lineFeeds r
  | c :: r => c :: lineFeeds r

/-- Whether the line ends of a text are of one kind: no line feed has a carriage return before it,
    or each has one and no more. -/
def UniformLineEnds (t : List Char) : Prop :=
  (∀ u v, t = u ++ '\n' :: v → ¬ ['\r'] <:+ u) ∨
    ∀ u v, t = u ++ '\n' :: v → ['\r'] <:+ u ∧ ¬ ['\r', '\r'] <:+ u

theorem containsText_iff : containsText p t = true ↔ p <:+: t := by
  induction t with
  | nil => simp [containsText]
  | cons c r ih =>
    rw [containsText, Bool.or_eq_true, ih, List.isPrefixOf_iff_prefix, List.infix_cons_iff]

theorem infix_cons_iff_tail (h : ¬ p <+: c :: r) : p <:+: c :: r ↔ p <:+: r := by
  rw [List.infix_cons_iff]
  exact or_iff_right h

/-- What ends with a line feed, said of what stands before a line feed. -/
theorem infix_lineFeed_iff (p : List Char) :
    p ++ ['\n'] <:+: t ↔ ∃ u v, t = u ++ '\n' :: v ∧ p <:+ u := by
  constructor
  · rintro ⟨a, b, rfl⟩
    exact ⟨a ++ p, b, by simp, List.suffix_append a p⟩
  · rintro ⟨u, v, rfl, a, rfl⟩
    exact ⟨a, v, by simp⟩

/-! ## Carriage returns left out -/

theorem not_prefix_of_not_pair (h : ∀ s, c = '\r' → r = '\n' :: s → False) :
    ¬ ['\r', '\n'] <+: c :: r := by
  rintro ⟨s, hs⟩
  obtain ⟨hc, hr⟩ := List.cons.inj hs
  exact h s hc.symm hr.symm

/-- Nothing is left out exactly if there is nothing to leave out. -/
theorem lineFeeds_eq_self_iff : lineFeeds t = t ↔ ¬ ['\r', '\n'] <:+: t := by
  fun_induction lineFeeds t with
  | case1 => simp
  | case2 r ih =>
    constructor
    · intro h
      exact absurd (List.cons.inj h).1 (by decide)
    · intro h
      exact absurd (List.prefix_append ['\r', '\n'] r).isInfix h
  | case3 c r hpair ih =>
    rw [List.cons_inj_right, ih, infix_cons_iff_tail (not_prefix_of_not_pair hpair)]

theorem prefix_lineFeeds_iff :
    ['\n'] <+: lineFeeds r ↔ ['\n'] <+: r ∨ ['\r', '\n'] <+: r := by
  fun_cases lineFeeds r with
  | case1 => simp
  | case2 r => simp
  | case3 c r hpair =>
    have h := not_prefix_of_not_pair hpair
    rw [or_iff_left h]
    simp

/-- A pair is left exactly where a carriage return stands before one. -/
theorem infix_lineFeeds_iff :
    ['\r', '\n'] <:+: lineFeeds t ↔ ['\r', '\r', '\n'] <:+: t := by
  fun_induction lineFeeds t with
  | case1 => simp
  | case2 r ih =>
    rw [infix_cons_iff_tail (by simp), ih, infix_cons_iff_tail (by simp),
      infix_cons_iff_tail (by simp)]
  | case3 c r hpair ih =>
    rw [List.infix_cons_iff, ih, List.infix_cons_iff, List.cons_prefix_cons, List.cons_prefix_cons,
      prefix_lineFeeds_iff]
    have hnot : c = '\r' → ¬ ['\n'] <+: r := by
      rintro rfl ⟨s, hs⟩
      exact hpair s rfl hs.symm
    exact or_congr_left (and_congr_right fun hc => or_iff_right (hnot hc.symm))

/-! ## Carriage returns put back -/

/-- What stands before the line feeds of a text, once a character is put in front of it that is no
    carriage return of a pair. -/
theorem forall_before_cons_iff (hc : c ≠ '\n') (h : ∀ s, c = '\r' → r = '\n' :: s → False) :
    (∀ u v, c :: r = u ++ '\n' :: v → ['\r'] <:+ u) ↔
      ∀ u v, r = u ++ '\n' :: v → ['\r'] <:+ u := by
  constructor
  · intro hall u v huv
    have hsuffix : ['\r'] <:+ c :: u := hall (c :: u) v (by rw [huv, List.cons_append])
    rcases List.suffix_cons_iff.1 hsuffix with heq | hu
    · obtain ⟨hc', rfl⟩ := List.cons.inj heq
      exact absurd huv fun hr => h v hc'.symm hr
    · exact hu
  · intro hall u v huv
    cases u with
    | nil => exact absurd (List.cons.inj huv).1 hc
    | cons a u =>
      obtain ⟨rfl, hr⟩ := List.cons.inj huv
      exact (hall u v hr).trans (List.suffix_cons c u)

theorem forall_before_pair_iff :
    (∀ u v, '\r' :: '\n' :: r = u ++ '\n' :: v → ['\r'] <:+ u) ↔
      ∀ u v, r = u ++ '\n' :: v → ['\r'] <:+ u := by
  constructor
  · intro hall u v huv
    have hsuffix : ['\r'] <:+ '\r' :: '\n' :: u :=
      hall ('\r' :: '\n' :: u) v (by rw [huv, List.cons_append, List.cons_append])
    rcases List.suffix_cons_iff.1 hsuffix with heq | hsuffix
    · cases heq
    rcases List.suffix_cons_iff.1 hsuffix with heq | hu
    · exact absurd (List.cons.inj heq).1 (by decide)
    · exact hu
  · intro hall u v huv
    cases u with
    | nil => exact absurd (List.cons.inj huv).1 (by decide)
    | cons a u =>
      obtain ⟨rfl, hrest⟩ := List.cons.inj huv
      cases u with
      | nil => exact List.suffix_refl _
      | cons b u =>
        obtain ⟨rfl, hr⟩ := List.cons.inj hrest
        exact (hall u v hr).trans (List.suffix_append ['\r', '\n'] u)

/-- Carriage returns are put back as they were exactly if every line feed had one. -/
theorem withCarriageReturns_lineFeeds_iff :
    withCarriageReturns (lineFeeds t) = t ↔ ∀ u v, t = u ++ '\n' :: v → ['\r'] <:+ u := by
  fun_induction lineFeeds t with
  | case1 => simp [withCarriageReturns]
  | case2 r ih =>
    have hpair : withCarriageReturns ('\n' :: lineFeeds r) =
        '\r' :: '\n' :: withCarriageReturns (lineFeeds r) := rfl
    rw [hpair, List.cons_inj_right, List.cons_inj_right, ih, forall_before_pair_iff]
  | case3 c r hpair ih =>
    by_cases hc : c = '\n'
    · subst hc
      constructor
      · intro h
        exact absurd (List.cons.inj h).1 (by decide)
      · intro h
        have hnil : ['\r'] <:+ [] := h [] r rfl
        exact absurd (List.suffix_nil.1 hnil) (List.cons_ne_nil _ _)
    · have hone : withCarriageReturns (c :: lineFeeds r) =
          c :: withCarriageReturns (lineFeeds r) := by
        rw [withCarriageReturns, List.flatMap_cons, if_neg hc, withCarriageReturns,
          List.singleton_append]
      rw [hone, List.cons_inj_right, ih, forall_before_cons_iff hc hpair]

/-! ## Line ends kept -/

/-- A text of which only line feeds are left gets its line ends back exactly if they are of one
    kind. -/
theorem keepLineEnds_lineFeeds_iff :
    Command.keepLineEnds t (lineFeeds t) = t ↔ UniformLineEnds t := by
  have hpair : ['\r', '\n'] <:+: t ↔ ∃ u v, t = u ++ '\n' :: v ∧ ['\r'] <:+ u :=
    infix_lineFeed_iff ['\r']
  have htriple : ['\r', '\r', '\n'] <:+: t ↔ ∃ u v, t = u ++ '\n' :: v ∧ ['\r', '\r'] <:+ u :=
    infix_lineFeed_iff ['\r', '\r']
  unfold Command.keepLineEnds UniformLineEnds
  simp only [Bool.and_eq_true, Bool.not_eq_true', Bool.eq_false_iff, ne_eq, containsText_iff,
    infix_lineFeeds_iff]
  by_cases hany : ['\r', '\n'] <:+: t
  · obtain ⟨u, v, huv, hu⟩ := hpair.1 hany
    rw [or_iff_right fun hnone => hnone u v huv hu]
    by_cases htwo : ['\r', '\r', '\n'] <:+: t
    · -- A pair is left, so no carriage return is put back.
      obtain ⟨u, v, huv, hu⟩ := htriple.1 htwo
      rw [if_neg fun h => h.2 htwo, lineFeeds_eq_self_iff]
      exact ⟨fun h => absurd hany h, fun h => absurd hu (h u v huv).2⟩
    · rw [if_pos ⟨hany, htwo⟩, withCarriageReturns_lineFeeds_iff]
      constructor
      · intro h u v huv
        exact ⟨h u v huv, fun hu => htwo (htriple.2 ⟨u, v, huv, hu⟩)⟩
      · intro h u v huv
        exact (h u v huv).1
  · have hnone : ∀ u v, t = u ++ '\n' :: v → ¬ ['\r'] <:+ u := fun u v huv hu =>
      hany (hpair.2 ⟨u, v, huv, hu⟩)
    rw [if_neg fun h => hany h.1, lineFeeds_eq_self_iff]
    exact ⟨fun _ => .inl hnone, fun _ => hany⟩

instance : Decidable (UniformLineEnds t) := decidable_of_iff _ keepLineEnds_lineFeeds_iff

example : UniformLineEnds "a\r\nb\rc\r\n".toList := by decide

example : ¬ UniformLineEnds "a\r\nb\n".toList := by decide

end FormEdit
