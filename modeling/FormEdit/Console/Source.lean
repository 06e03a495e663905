import FormEdit.Console.Flow
import FormEdit.Text.Lines

set_option autoImplicit false

/-! # Source on lines of a console

Source is shown in pieces: a comment is one, as is a string that is closed and a character behind
a backslash, and every other character is one of its own. What joins characters to clusters works
within a piece only when a line is filled up. -/

namespace FormEdit

/-! ## Pieces -/

/-- The number of characters up to the end of a string, behind `n` of them, if it is closed. A
    backslash takes the character behind it along. -/
def stringEnd? (n : Nat) : List Char → Option Nat
  | [] => none
  | '"' :: _ => some (n + 1)
  | ['\\'] => none
  | '\\' :: _ :: r => stringEnd? (n + 2) r
  | _ :: r => stringEnd? (n + 1) r

/-- How many of the characters `r` belong to the piece that begins with the character `c` in front
    of them. -/
def pieceRest (c : Char) (r : List Char) : Nat :=
  if c = ';' then (r.takeWhile (· ≠ '\n')).length
  else if c = '"' then (stringEnd? 0 r).getD 0
  else if c = '\\' && r.head?.any (· ≠ '\n') then 1
  else 0

/-- The pieces of a source. -/
def sourcePieces : List Char → List (List Char)
  | [] => []
  | c :: r => (c :: r.take (pieceRest c r)) :: sourcePieces (r.drop (pieceRest c r))
  termination_by t => t.length
  decreasing_by simp only [List.length_drop, List.length_cons]; omega

/-! ## Lines -/

/-- Expand the tabs of source, `column` characters behind the beginning of a line. -/
def sourceTabsFrom (column : Nat) : List Char → List Char
  | [] => []
  | c :: r =>
    if c = '\t' then
      let n := 4 - column % 4
      blanks n ++ sourceTabsFrom (column + n) r
    else c :: sourceTabsFrom (if c = '\n' || c = '\r' then 0 else column + 1) r

/-- Put a piece, cut at line feeds, in front of lines that are made of pieces. -/
def joinPiece : List (List Char) → List (List (List Char)) → List (List (List Char))
  | [part], line :: lines => (part :: line) :: lines
  | part :: parts, lines => [part] :: joinPiece parts lines
  | [], lines => lines

/-- Pieces on lines, where a piece may reach over several lines. -/
def pieceLines (ps : List (List Char)) : List (List (List Char)) :=
  ps.foldr (fun p lines => joinPiece (pieces '\n' p) lines) [[]]

/-- The lines of source as a panel shows them, in pieces. Every line end counts as one, and a line
    end that stands last opens a further line. -/
def sourceLines (source : List Char) : List (List (List Char)) :=
  let ended := source.getLast? == some '\n'
  let t := sourceTabsFrom 0 (if ended then source else source ++ ['\n'])
  let t := match t with
    | '\uFEFF' :: r => r
    | t => t
  let lines := pieceLines ((sourcePieces (unifyNewlines t)).map withoutMovement)
  if ended then lines else lines.dropLast

/-! ## Setting to a number of cells -/

/-- Cut a text into pieces as long as the given ones; what is left is one more. -/
def cutLike : List (List Char) → List Char → List (List Char)
  | [], t => [t]
  | p :: ps, t => t.take p.length :: cutLike ps (t.drop p.length)

/-- The cells of pieces, each measured alone. -/
def cellsOfPieces (ps : List (List Char)) : Nat := ps.foldr (fun p n => cellLength p + n) 0

/-- The pieces in front that fill a number of cells, the last of them set to what is left. -/
def fillPieces (cells : Nat) : List (List Char) → List (List Char)
  | [] => []
  | p :: ps =>
    if cellLength p < cells then p :: fillPieces (cells - cellLength p) ps else [setCells cells p]

/-- Pieces cut off behind a number of cells. -/
def cropPieces (cells : Nat) (ps : List (List Char)) : List (List Char) :=
  if cellsOfPieces ps ≤ cells then ps else fillPieces cells ps

/-- Pieces set to a number of cells: cut off behind them, or filled up with a piece of spaces. -/
def fitPieces (cells : Nat) (ps : List (List Char)) : List (List Char) :=
  if cellsOfPieces ps ≤ cells then ps ++ [blanks (cells - cellsOfPieces ps)]
  else fillPieces cells ps

/-- A line of pieces set to a width: first the line as a whole, and then once more with its pieces
    measured alone. -/
def setPieces (width : Nat) (ps : List (List Char)) : List Char :=
  let line := padEnd width (cutToWidth .fold width (trimBeyond width ps.flatten))
  (fitPieces width (cutLike ps line)).flatten

end FormEdit
