import FormEdit.Text.CharClass

set_option autoImplicit false

/-! # Blank characters

The blank characters are those that Unicode gives the white-space, paragraph-separator or
segment-separator direction, or a space category: twenty-nine in all. -/

namespace FormEdit

/-- The ranges of the blank characters. -/
def blankClass : CharClass where
  ranges :=
    [(9, 13), (28, 32), (133, 133), (160, 160), (5760, 5760), (8192, 8202), (8232, 8233),
     (8239, 8239), (8287, 8287), (12288, 12288)]

/-- Whether a character is blank. The line feed is; the comma is not. -/
def isBlank (c : Char) : Bool := blankClass.contains c

/-- Whether a character has the white-space property: the blanks but the four separators of
    information. -/
def isWhiteSpace (c : Char) : Bool := isBlank c && !(28 ≤ c.toNat && c.toNat ≤ 31)

/-- A text without the characters of a kind at its ends. -/
def trimEnds (p : Char → Bool) (t : List Char) : List Char :=
  ((t.dropWhile p).reverse.dropWhile p).reverse

/-- A text without the blanks at its ends. -/
def strip (t : List Char) : List Char := trimEnds isBlank t

end FormEdit
