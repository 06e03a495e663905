set_option autoImplicit false

/-! # Positions

A position is an offset with its line and column, the last two counted from one. Only the line
feed starts a new line. Moving over a text is moving over its characters one by one, so moving
over two texts in turn is moving over both at once. -/

namespace FormEdit

/-- A place in a text. -/
structure Position where
  offset : Int
  line : Int
  column : Int
  deriving DecidableEq, Repr

namespace Position

/-- The beginning of a text. -/
def start : Position := ⟨0, 1, 1⟩

/-- The position behind one character. -/
def step (p : Position) (c : Char) : Position :=
  if c = '\n' then ⟨p.offset + 1, p.line + 1, 1⟩ else ⟨p.offset + 1, p.line, p.column + 1⟩

/-- The position behind a text. -/
def advance (p : Position) (t : List Char) : Position := t.foldl step p

@[simp] theorem advance_nil (p : Position) : p.advance [] = p := rfl

@[simp] theorem advance_append (p : Position) (t u : List Char) :
    p.advance (t ++ u) = (p.advance t).advance u := by simp [advance, List.foldl_append]

theorem advance_offset (p : Position) (t : List Char) :
    (p.advance t).offset = p.offset + t.length := by
  induction t generalizing p with
  | nil => simp
  | cons c r ih =>
    have h : p.advance (c :: r) = (p.step c).advance r := rfl
    rw [h, ih]
    unfold step
    split <;> simp <;> omega

theorem advance_line (p : Position) (t : List Char) :
    (p.advance t).line = p.line + t.count '\n' := by
  induction t generalizing p with
  | nil => simp
  | cons c r ih =>
    have h : p.advance (c :: r) = (p.step c).advance r := rfl
    rw [h, ih]
    unfold step
    split
    · next hc => simp [hc]; omega
    · next hc => simp [hc]

end Position

end FormEdit
