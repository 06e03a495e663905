import FormEdit.Position
import FormEdit.Token.Basic
import Mathlib.Data.List.Induction

set_option autoImplicit false

/-! # Lines and columns counted in other ways

Moving over a text character by character comes to the same position as moving over it at once
(`Position.advance_eq_jump`), as counting its line feeds and looking for the last of them
(`Position.start_advance_eq_counted`), and as keeping track of line and column over its pieces
(`Position.foldl_track`). -/

namespace FormEdit

namespace Position

/-- The index of the last line feed of a text, minus one when it has none. -/
def lastFeed (t : List Char) : Int :=
  match t.reverse.findIdx? (· = '\n') with
  | some k => t.length - 1 - k
  | none => -1

/-- The position behind a text: its line feeds are counted, and the column counts from the last of
    them. -/
def counted (t : List Char) : Position :=
  ⟨t.length, t.count '\n' + 1, t.length - (lastFeed t + 1) + 1⟩

/-- Keep track of line and column over a piece of text. Where it has no line feed the column
    grows. -/
def track (p : Position) (t : List Char) : Position :=
  if t.count '\n' ≠ 0 then
    { p with line := p.line + t.count '\n', column := t.length - lastFeed t }
  else { p with column := p.column + t.length }

/-- Move over a text at once. -/
def jump (p : Position) (t : List Char) : Position :=
  { p.track t with offset := p.offset + t.length }

/-! ## The last line feed -/

theorem lastFeed_concat (t : List Char) (c : Char) :
    lastFeed (t ++ [c]) = if c = '\n' then (t.length : Int) else lastFeed t := by
  rw [lastFeed, lastFeed, List.reverse_append, List.reverse_singleton, List.singleton_append,
    List.findIdx?_cons]
  by_cases hc : c = '\n'
  · simp [hc]
  · simp only [hc, decide_false, Bool.false_eq_true, if_false]
    cases t.reverse.findIdx? (· = '\n') with
    | none => rfl
    | some k =>
      simp only [Option.map_some, List.length_append, List.length_singleton]
      omega

theorem lastFeed_of_count_eq_zero {t : List Char} (h : t.count '\n' = 0) : lastFeed t = -1 := by
  induction t using List.reverseRecOn with
  | nil => rfl
  | append_singleton t c ih =>
    rw [List.count_append] at h
    have hc : c ≠ '\n' := by
      rintro rfl
      simp at h
    rw [lastFeed_concat, if_neg hc, ih (by omega)]

/-- The characters behind the last line feed. -/
theorem length_sub_lastFeed (t : List Char) :
    (t.length : Int) - lastFeed t = 1 + (t.reverse.takeWhile (· ≠ '\n')).length := by
  induction t using List.reverseRecOn with
  | nil => rfl
  | append_singleton t c ih =>
    rw [lastFeed_concat, List.reverse_append, List.reverse_singleton, List.singleton_append,
      List.length_append, List.length_singleton]
    by_cases hc : c = '\n'
    · rw [if_pos hc, List.takeWhile_cons_of_neg (by simpa using hc), List.length_nil]
      omega
    · rw [if_neg hc, List.takeWhile_cons_of_pos (by simpa using hc), List.length_cons]
      omega

/-! ## Columns -/

theorem advance_concat (p : Position) (t : List Char) (c : Char) :
    p.advance (t ++ [c]) = (p.advance t).step c := by
  rw [advance_append]
  rfl

/-- The column behind a text that is moved over. -/
theorem advance_column (p : Position) (t : List Char) :
    (p.advance t).column =
      if t.count '\n' ≠ 0 then t.length - lastFeed t else p.column + t.length := by
  induction t using List.reverseRecOn with
  | nil => simp
  | append_singleton t c ih =>
    rw [advance_concat, lastFeed_concat, step, List.length_append, List.length_singleton]
    by_cases hc : c = '\n'
    · subst hc
      have hcount : (t ++ ['\n']).count '\n' ≠ 0 := by simp
      rw [if_pos rfl, if_pos rfl, if_pos hcount]
      simp only
      omega
    · have hcount : (t ++ [c]).count '\n' = t.count '\n' := by
        rw [List.count_append, List.count_singleton, if_neg (by simpa using hc), Nat.add_zero]
      rw [if_neg hc, if_neg hc, hcount]
      simp only [ih]
      split <;> omega

/-- Moving over a text character by character is moving over it at once. -/
theorem advance_eq_jump (p : Position) (t : List Char) : p.advance t = p.jump t := by
  have hoffset := advance_offset p t
  have hline := advance_line p t
  have hcolumn := advance_column p t
  cases hp : p.advance t with
  | mk offset line column =>
    rw [hp] at hoffset hline hcolumn
    simp only at hoffset hline hcolumn
    rw [jump, track, hoffset, hline, hcolumn]
    split
    · rfl
    · next hcount =>
      have hzero : t.count '\n' = 0 := by omega
      simp [hzero]

/-- The position behind a text is counted in the text as a whole. -/
theorem start_advance_eq_counted (t : List Char) : start.advance t = counted t := by
  rw [advance_eq_jump, jump, track, counted]
  split
  · simp only [start, Position.mk.injEq]
    omega
  · next hcount =>
    have hzero : t.count '\n' = 0 := by omega
    rw [lastFeed_of_count_eq_zero hzero, hzero]
    simp only [start, Position.mk.injEq]
    omega

/-- The column behind a text counts its characters since the last line feed. -/
theorem start_advance_column (t : List Char) :
    (start.advance t).column = 1 + (t.reverse.takeWhile (· ≠ '\n')).length := by
  rw [start_advance_eq_counted, counted, ← length_sub_lastFeed]
  simp only
  omega

/-- The offset behind a text is its length. -/
theorem start_advance_with (t : List Char) :
    { start.advance t with offset := t.length } = start.advance t := by
  rw [start_advance_eq_counted, counted]

/-- Keeping track over the texts of tokens tells the line and column behind all of them. -/
theorem foldl_track (p : Position) (ts : List Token) :
    ts.foldl (fun q t => q.track t.text) p =
      { p.advance (Token.textOf ts) with offset := p.offset } := by
  induction ts generalizing p with
  | nil => rfl
  | cons t ts ih =>
    have htrack : p.track t.text = { p.advance t.text with offset := p.offset } := by
      rw [advance_eq_jump, jump, track]
      split <;> rfl
    rw [List.foldl_cons, ih, Token.textOf_cons, advance_append, htrack]
    rw [advance_eq_jump, advance_eq_jump (p.advance t.text), jump, jump, track, track]
    split <;> rfl

end Position

end FormEdit
