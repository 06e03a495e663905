import FormEdit.Settings.Moment
import FormEdit.Value.Whole

set_option autoImplicit false

/-! # Items of a settings file

What stands under a key of a settings file is text, a number, a truth value, a moment, an array or a
table. Where a setting is a whole number or text, any item may stand, and is read as one as far as
it can be. -/

namespace FormEdit.Toml

/-- What stands under a key. -/
inductive Item where
  | bool (b : Bool)
  | int (n : Int)
  | float (x : Float)
  | text (s : String)
  | moment (m : Moment)
  | array (items : List Item)
  | table (entries : List (String × Item))
  deriving Inhabited

/-- The entries of a table, in the order in which their keys first came. -/
abbrev Table := List (String × Item)

namespace Item

mutual

/-- An item as a value. A moment is its text. -/
def value : Item → Value
  | bool b => .bool b
  | int n => .int n
  | float x => .float x
  | text s => .text s
  | moment m => .text m.text
  | array items => .list (values items)
  | table entries => .dict (valueEntries entries)

/-- Items as values. -/
def values : List Item → List Value
  | [] => []
  | i :: r => i.value :: values r

/-- Entries as those of a dictionary. -/
def valueEntries : List (String × Item) → List (Value × Value)
  | [] => []
  | (k, i) :: r => (.text k, i.value) :: valueEntries r

end

/-- The whole number that an item stands for. A moment stands for none. -/
def whole : Item → Except WholeError Int
  | moment m => .error (.wrongKind m.kindName)
  | i => i.value.whole

mutual

/-- The quoted form of an item; none if it holds a number that is too long to be printed. -/
def quotedForm : Item → Option String
  | bool b => some (if b then "True" else "False")
  | int n => if Numeral.printable n then some (toString n) else none
  | float x => some (Decimal.shortestText x)
  | text s => some (String.ofList (quoted s.toList))
  | moment m => some m.quotedForm
  | array items => (quotedForms items).map fun parts => "[" ++ Value.joined parts ++ "]"
  | table entries =>
    (quotedEntries entries).map fun parts => "\x7b" ++ Value.joined parts ++ "\x7d"

/-- The quoted forms of the items of an array. -/
def quotedForms : List Item → Option (List String)
  | [] => some []
  | i :: r =>
    match i.quotedForm with
    | none => none
    | some part => (quotedForms r).map (part :: ·)

/-- The quoted forms of the entries of a table. -/
def quotedEntries : List (String × Item) → Option (List String)
  | [] => some []
  | (k, i) :: r =>
    match i.quotedForm with
    | none => none
    | some part =>
      (quotedEntries r).map ((String.ofList (quoted k.toList) ++ ": " ++ part) :: ·)

end

/-- The text of an item, if it can be printed. Text and moments show as themselves. -/
def display? : Item → Option String
  | text s => some s
  | moment m => some m.text
  | i => i.quotedForm

/-- What the names of a key lead to. -/
def at? : List String → Item → Option Item
  | [], i => some i
  | name :: rest, table entries =>
    match entries.lookup name with
    | some i => at? rest i
    | none => none
  | _, _ => none

end Item

end FormEdit.Toml
