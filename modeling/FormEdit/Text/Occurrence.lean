set_option autoImplicit false

/-! # Occurrences of one text in another

Occurrences are looked for from the left, and one that has been counted is passed over whole. -/

namespace FormEdit

/-- Whether `p` stands somewhere in a text. -/
def containsText (p : List Char) : List Char → Bool
  | [] => p.isEmpty
  | c :: r => p.isPrefixOf (c :: r) || containsText p r

/-- Add to `n` the number of occurrences of the non-empty text `p`, none overlapping another. -/
def countFrom (p : List Char) (n : Nat) : List Char → Nat
  | [] => n
  | c :: r =>
    if p.isPrefixOf (c :: r) then countFrom p (n + 1) (r.drop (p.length - 1))
    else countFrom p n r
  termination_by t => t.length
  decreasing_by all_goals (simp only [List.length_drop, List.length_cons]; omega)

/-- The number of occurrences of `p` in `t` that do not overlap. The empty text occurs before
    every character and at the end. -/
def occurrences (p t : List Char) : Nat :=
  if p.isEmpty then t.length + 1 else countFrom p 0 t

/-- Cut a text at the first occurrence of `p`, behind the characters `before`, newest first. -/
def cutFrom (p before : List Char) : List Char → Option (List Char × List Char)
  | [] => if p.isEmpty then some (before.reverse, []) else none
  | c :: r =>
    if p.isPrefixOf (c :: r) then some (before.reverse, (c :: r).drop p.length)
    else cutFrom p (c :: before) r

/-- What stands before and after the first occurrence of `p` in `t`. -/
def cutAt (p t : List Char) : Option (List Char × List Char) := cutFrom p [] t

/-- Cut a text at every occurrence of the character `mark`, behind the piece `cur`, newest first. -/
def piecesFrom (mark : Char) (cur : List Char) : List Char → List (List Char)
  | [] => [cur.reverse]
  | c :: r => if c = mark then cur.reverse :: piecesFrom mark [] r else piecesFrom mark (c :: cur) r

/-- The pieces of a text between the occurrences of a character. There is one piece more than
    there are occurrences. -/
def pieces (mark : Char) (t : List Char) : List (List Char) := piecesFrom mark [] t

/-- A text with a carriage return put before every line feed. -/
def withCarriageReturns (t : List Char) : List Char :=
  t.flatMap fun c => if c = '\n' then ['\r', '\n'] else [c]

end FormEdit
