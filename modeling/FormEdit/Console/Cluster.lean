import FormEdit.Console.Cell

set_option autoImplicit false

/-! # Clusters of characters

Characters that are shown as one make a cluster: a character of its own with the marks behind it,
and whatever joiners join to it. The widener asks for the wide form of the character that it
follows. Text is measured in cells, and cut between clusters only. -/

namespace FormEdit

/-- The character that joins the next one to those before it. -/
def joiner : Char := '\u200d'

/-- The character that asks for the wide form of the one before it. -/
def widener : Char := '\ufe0f'

/-! ## Measuring -/

/-- The cells that a widener adds behind the character that was measured last. -/
def widening (last : Option Char) : Nat := if last.any widenedClass.contains then 1 else 0

/-- The character that was measured last once `c` is: it is `c` if that takes a cell. -/
def measured (last : Option Char) (c : Char) : Option Char := if cellWidth c = 0 then last else some c

/-- The number of cells that a text takes behind the character measured `last`. A character that
    is `joined` takes none. -/
def cellLengthFrom (joined : Bool) (last : Option Char) : List Char → Nat
  | [] => 0
  | c :: r =>
    if joined then cellLengthFrom false last r
    else if c = joiner then cellLengthFrom true last r
    else if c = widener then widening last + cellLengthFrom false none r
    else cellWidth c + cellLengthFrom false (measured last c) r

/-- The number of cells that a text takes. -/
def cellLength (t : List Char) : Nat := cellLengthFrom false none t

/-! ## Clusters -/

/-- A cluster: its characters, newest first, and the cells that it takes. -/
structure Cluster where
  reversed : List Char
  cells : Nat
  deriving DecidableEq, Repr

namespace Cluster

/-- The characters of a cluster. -/
def text (k : Cluster) : List Char := k.reversed.reverse

/-- The cluster that a character begins. -/
def start (c : Char) : Cluster := ⟨[c], cellWidth c⟩

/-- The cluster with one more character, which takes up a number of cells more. -/
def add (k : Cluster) (c : Char) (cells : Nat) : Cluster := ⟨c :: k.reversed, k.cells + cells⟩

end Cluster

/-- The clusters of a text behind the cluster `k`, which goes on as long as characters join it. -/
def clustersFrom (joined : Bool) (last : Option Char) (k : Cluster) : List Char → List Cluster
  | [] => [k]
  | c :: r =>
    if joined then clustersFrom false last (k.add c 0) r
    else if c = joiner then clustersFrom true last (k.add c 0) r
    else if c = widener then clustersFrom false none (k.add c (widening last)) r
    else if cellWidth c = 0 then clustersFrom false last (k.add c 0) r
    else k :: clustersFrom false (some c) (.start c) r

/-- The clusters of a text. A mark or a joiner that stands first makes one of its own. -/
def clusters : List Char → List Cluster
  | [] => []
  | c :: r => clustersFrom false (measured none c) (.start c) r

/-! ## Setting to a number of cells -/

/-- A number of spaces. -/
def blanks (n : Nat) : List Char := List.replicate n ' '

/-- The clusters in front that fill a number of cells. One that reaches over the end gives way to
    a space. -/
def fillCells (cells : Nat) : List Cluster → List Char
  | [] => []
  | k :: r =>
    if cells = 0 then []
    else if k.cells ≤ cells then k.text ++ fillCells (cells - k.cells) r
    else [' ']

/-- The text set to a number of cells: what does not fit is cut off, and what is missing is filled
    with spaces. -/
def setCells (cells : Nat) (t : List Char) : List Char :=
  if cellLength t ≤ cells then t ++ blanks (cells - cellLength t) else fillCells cells (clusters t)

end FormEdit
