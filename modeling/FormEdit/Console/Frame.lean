import FormEdit.Console.Source
import FormEdit.Console.Styled

set_option autoImplicit false

/-! # Frames around text

A panel shows source in a frame with a title in its upper border. A table shows rows of two cells
in a frame with a title above it. Both are as wide as the console allows and no wider. -/

namespace FormEdit

/-- A horizontal line. -/
def rule (n : Nat) : List Char := List.replicate n '─'

/-! ## Panels -/

/-- The upper border of a panel, with a title in its middle. -/
def panelTop (width : Nat) : Option (List Char) → List Char
  | none => '╭' :: (rule (width - 2) ++ ['╮'])
  | some title =>
    let room := width - 4
    let t := expandTabs (title.map fun c => if c = '\n' then ' ' else c)
    let t := ' ' :: (t ++ [' '])
    let t := if cellLength t ≤ room then t else setCells room t
    let free := room - cellLength t
    '╭' :: '─' :: (rule (free / 2) ++ t ++ rule (free - free / 2) ++ ['─', '╮'])

/-- A panel with source in it, one line each. -/
def panel (width : Nat) (title : Option (List Char)) (source : List Char) : List (List Char) :=
  let body := (sourceLines source).map fun line =>
    '│' :: ' ' :: (setPieces (width - 4) line ++ [' ', '│'])
  panelTop width title :: (body ++ ['╰' :: (rule (width - 2) ++ ['╯'])])

/-! ## Tables -/

/-- The cells that the widest line of a text takes. -/
def widestLine (t : List Char) : Nat := ((splitLines t).map cellLength).foldl max 0

/-- The width that a column wants: its widest line with a space on either side, or all there is
    when it has no cells. -/
def columnWidth (limit : Nat) (cells : List Styled) : Nat :=
  if cells.isEmpty then limit
  else cells.foldl (fun w s => max w (min limit (widestLine s.text + 2))) 0

/-- Half of a number, a half of one going to the even neighbour. -/
def halfToEven (n : Nat) : Nat := if n % 4 = 3 then n / 2 + 1 else n / 2

/-- Bring two columns under a limit. The wider one gives way first, and what is still too much is
    taken from both. -/
def shrinkColumns (limit a b : Nat) : Nat × Nat :=
  if a + b ≤ limit then (a, b)
  else if 2 * min a b ≤ limit then
    if b < a then (limit - b, b) else (a, limit - a)
  else
    let m := min a b
    let excess := 2 * m - limit
    (m - halfToEven excess, m - (excess - halfToEven excess))

/-- A line of a cell set to the room that there is for it, between two spaces. It is filled up as a
    whole, and then its pieces are measured alone; when these are too wide they push the space
    behind them out. -/
def cellLine (room : Nat) (s : Styled) : List Char :=
  let inner := fitPieces room (s.padded room).pieces
  (fitPieces (room + 2) ([' '] :: (inner ++ [[' ']]))).flatten

/-- The lines of a cell, with a space on either side. -/
def cellLines (width : Nat) (s : Styled) : List (List Char) :=
  let room := width - 2
  if room = 0 then [] else (s.flow .ellipsis room).map (cellLine room)

/-- Lines of a row, where a cell that has no more lines is blank. -/
def zipCells (left right : Nat) : List (List Char) → List (List Char) → List (List Char)
  | [], [] => []
  | [], b :: bs => ('│' :: (blanks left ++ '│' :: (b ++ ['│']))) :: zipCells left right [] bs
  | a :: as, [] => ('│' :: (a ++ '│' :: (blanks right ++ ['│']))) :: zipCells left right as []
  | a :: as, b :: bs => ('│' :: (a ++ '│' :: (b ++ ['│']))) :: zipCells left right as bs

/-- The lines of a row, one at least. -/
def rowLines (left right : Nat) (row : Styled × Styled) : List (List Char) :=
  match zipCells left right (cellLines left row.1) (cellLines right row.2) with
  | [] => zipCells left right [blanks left] [blanks right]
  | lines => lines

/-- A table of rows below its title. -/
def table (width : Nat) (title : Option Styled) (rows : List (Styled × Styled)) :
    List (List Char) :=
  let limit := width - 3
  let (left, right) := shrinkColumns limit (columnWidth limit (rows.map Prod.fst))
    (columnWidth limit (rows.map Prod.snd))
  let border (a b c : Char) := a :: (rule left ++ b :: (rule right ++ [c]))
  let whole := left + right + 3
  let head := title.elim [] fun s =>
    (s.flow .fold whole).map fun l => (cropPieces width (l.centred whole).pieces).flatten
  head ++ border '┌' '┬' '┐' :: (rows.flatMap (rowLines left right) ++ [border '└' '┴' '┘'])

end FormEdit
