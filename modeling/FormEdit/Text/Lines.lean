set_option autoImplicit false

/-! # Lines of a text

A text that people read by lines is cut at every character that Unicode takes for a line end. A
text that comes from a file opened for reading has its carriage returns made line feeds first. -/

namespace FormEdit

/-- Whether a character ends a line: a line feed, a carriage return, the vertical tab, the form
    feed, the file, group and record separators, the next-line control, and the two separators
    of lines and paragraphs. -/
def isLineBreak (c : Char) : Bool :=
  [10, 11, 12, 13, 28, 29, 30, 133, 8232, 8233].contains c.toNat

/-- Cut `t` into lines, where `cur` holds the characters of the line begun, newest first. -/
def splitLinesFrom (cur : List Char) : List Char → List (List Char)
  | [] => if cur.isEmpty then [] else [cur.reverse]
  | '\r' :: '\n' :: r => cur.reverse :: splitLinesFrom [] r
  | c :: r => if isLineBreak c then cur.reverse :: splitLinesFrom [] r else splitLinesFrom (c :: cur) r

/-- The lines of a text without their ends. A carriage return and the line feed after it end one
    line together, and a line end that stands last opens no further line. -/
def splitLines (t : List Char) : List (List Char) := splitLinesFrom [] t

/-- Make each line end of `t` a line feed, behind the characters `done`, newest first. -/
def unifyNewlinesAfter (done : List Char) : List Char → List Char
  | [] => done.reverse
  | '\r' :: '\n' :: r => unifyNewlinesAfter ('\n' :: done) r
  | '\r' :: r => unifyNewlinesAfter ('\n' :: done) r
  | c :: r => unifyNewlinesAfter (c :: done) r

/-- The text with every carriage return, alone or before a line feed, made one line feed. -/
def unifyNewlines (t : List Char) : List Char := unifyNewlinesAfter [] t

/-- The items at places `first` up to, not including, `last` of a list, where a negative place
    counts from the end of the list and a place beyond an end stands for that end. -/
def slice {α : Type} (xs : List α) (first last : Int) : List α :=
  let place (i : Int) : Nat := (if i < 0 then i + xs.length else i).toNat
  (xs.take (place last)).drop (place first)

end FormEdit
