import FormEdit.Console.Cluster
import FormEdit.Text.Blank
import FormEdit.Text.Occurrence

set_option autoImplicit false

/-! # Text on lines of limited width

Text flows onto lines that have a number of cells. A line ends where the next word would not fit.
A word that is wider than a line is either folded over several lines or cut off with a mark. -/

namespace FormEdit

/-- What becomes of a word that is wider than a line. -/
inductive Overflow where
  | fold
  | ellipsis
  deriving DecidableEq, Repr

/-! ## Control characters and tabs -/

/-- Whether a character only moves the writing place: the bell, the backspace, the vertical tab,
    the form feed and the carriage return. -/
def isMovement (c : Char) : Bool := [7, 8, 11, 12, 13].contains c.toNat

/-- A text without characters that only move the writing place. -/
def withoutMovement (t : List Char) : List Char := t.filter fun c => !isMovement c

/-- The parts of a line between its tabs, set behind `cells` cells. A tab takes one cell, and more
    up to the next multiple of `size`. -/
def setTabs (size cells : Nat) : List (List Char) → List Char
  | [] => []
  | [part] => part
  | part :: rest =>
    let cells := cells + cellLength (part ++ [' '])
    let missing := (size - cells % size) % size
    part ++ ' ' :: blanks missing ++ setTabs size (cells + missing) rest

/-- A line with its tabs expanded to the stops of a console. -/
def expandTabs (t : List Char) : List Char := setTabs 8 0 (pieces '\t' t)

/-! ## Words -/

/-- Cut a line into words, where `word` holds the characters of the word begun, newest first;
    `begun` says whether one of them is no blank, and `gap` whether the newest is one. -/
def wordsFrom (word : List Char) (begun gap : Bool) : List Char → List (List Char)
  | [] => if begun then [word.reverse] else []
  | c :: r =>
    if isBlank c then wordsFrom (c :: word) begun true r
    else if begun && gap then word.reverse :: wordsFrom [c] true false r
    else wordsFrom (c :: word) true false r

/-- The words of a line with the blanks behind them, the first one also with those in front.
    A line of blanks has no word. -/
def words (t : List Char) : List (List Char) := wordsFrom [] false false t

/-- A text without the blanks at its end. -/
def trimEnd (t : List Char) : List Char := (t.reverse.dropWhile isBlank).reverse

/-- Put clusters together to parts that fit on a line, where `part` holds the characters of the
    part begun, newest first, which take `cells` cells. -/
def foldFrom (width : Nat) (part : List Char) (cells : Nat) : List Cluster → List (List Char)
  | [] => if cells = 0 then [] else [part.reverse]
  | k :: r =>
    if width < cells + k.cells then part.reverse :: foldFrom width k.reversed k.cells r
    else foldFrom width (k.reversed ++ part) (cells + k.cells) r

/-- The parts of a word, each as long as fits on a line. -/
def foldWord (width : Nat) (word : List Char) : List (List Char) :=
  foldFrom width [] 0 (clusters word)

/-! ## Lines -/

/-- Lines while words are put on them: those that are full, newest first, the one that is being
    filled, and the cells that count as taken on it. -/
structure Filling where
  full : List (List Char)
  line : List Char
  taken : Nat

namespace Filling

/-- Nothing filled yet. -/
def start : Filling := ⟨[], [], 0⟩

/-- Begin a line with a part of text, unless nothing at all stands before it. -/
def begin (f : Filling) (part : List Char) : Filling :=
  ⟨if f.line.isEmpty && f.full.isEmpty then [] else f.line :: f.full, part, cellLength part⟩

/-- Put a word where it fits. -/
def add (o : Overflow) (width : Nat) (f : Filling) (word : List Char) : Filling :=
  let cells := cellLength (trimEnd word)
  if f.taken + cells ≤ width then
    ⟨f.full, f.line ++ word, f.taken + cellLength word⟩
  else if width < cells && o = .fold then (foldWord width word).foldl begin f
  else f.begin word

/-- The lines, in order. -/
def lines (f : Filling) : List (List Char) := (f.line :: f.full).reverse

end Filling

/-- Break a line at words. A line of blanks stays as it is. -/
def breakLine (o : Overflow) (width : Nat) (t : List Char) : List (List Char) :=
  match words t with
  | [] => [t]
  | ws => (ws.foldl (Filling.add o width) .start).lines

/-- Take blanks from the end of a line as long as it has more characters than there are cells. -/
def trimBeyond (width : Nat) (t : List Char) : List Char :=
  let excess := t.length - width
  let trailing := t.length - (trimEnd t).length
  t.take (t.length - min trailing excess)

/-- Cut off what is too much for a line. -/
def cutToWidth (o : Overflow) (width : Nat) (t : List Char) : List Char :=
  if cellLength t ≤ width then t
  else
    match o with
    | .fold => setCells width t
    | .ellipsis => setCells (width - 1) t ++ ['…']

/-- A line filled up with spaces. -/
def padEnd (width : Nat) (t : List Char) : List Char := t ++ blanks (width - cellLength t)

end FormEdit
