import FormEdit.Number.Decimal
import FormEdit.Text.Quoted
import FormEdit.Value.Basic

set_option autoImplicit false

/-! # The text of a value

Text shows as itself; inside a container it is quoted, as every other kind always is. A quoted form
is made level by level, so a value that nests deeper than there are levels cannot be shown
(`Value.isShowable`). -/

namespace FormEdit.Value

/-- Pieces of text with commas between them. -/
def joined (parts : List String) : String := String.intercalate ", " parts

mutual

/-- The quoted form of a value. -/
def quotedForm : Value → String
  | null => "None"
  | bool b => if b then "True" else "False"
  | int n => toString n
  | float x => Decimal.shortestText x
  | text s => String.ofList (quoted s.toList)
  | bytes bs => String.ofList (quotedBytes bs)
  | list items => "[" ++ joined (quotedForms items) ++ "]"
  | tuple items =>
    match quotedForms items with
    | [one] => "(" ++ one ++ ",)"
    | many => "(" ++ joined many ++ ")"
  | dict entries => "\x7b" ++ joined (quotedEntries entries) ++ "\x7d"

/-- The quoted forms of the items of a container. -/
def quotedForms : List Value → List String
  | [] => []
  | v :: r => quotedForm v :: quotedForms r

/-- The quoted forms of the entries of a dictionary. -/
def quotedEntries : List (Value × Value) → List String
  | [] => []
  | (k, v) :: r => (quotedForm k ++ ": " ++ quotedForm v) :: quotedEntries r

end

mutual

/-- How many levels a value has. -/
def depth : Value → Nat
  | list items | tuple items => depthOfItems items + 1
  | dict entries => depthOfEntries entries + 1
  | _ => 1

/-- How many levels the deepest of some values has. -/
def depthOfItems : List Value → Nat
  | [] => 0
  | v :: r => max (depth v) (depthOfItems r)

/-- How many levels the deepest of some keys and values has. -/
def depthOfEntries : List (Value × Value) → Nat
  | [] => 0
  | (k, v) :: r => max (max (depth k) (depth v)) (depthOfEntries r)

end

/-- Whether a value can be shown with a number of levels. Text is not quoted, and so always can. -/
def isShowable (levels : Nat) : Value → Bool
  | text _ => true
  | v => v.depth ≤ levels

/-- The text of a value that can be shown. -/
def display : Value → String
  | text s => s
  | v => quotedForm v

end FormEdit.Value
