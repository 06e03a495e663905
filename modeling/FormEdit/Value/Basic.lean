set_option autoImplicit false

/-! # Dynamic values

Parameters of a tool call, messages on the wire and entries of a configuration file are values
whose kind is known only when they are looked at. A dictionary keeps its entries in the order in
which their keys first came. -/

namespace FormEdit

/-- A value of any kind. -/
inductive Value where
  | null
  | bool (b : Bool)
  | int (n : Int)
  | float (x : Float)
  | text (s : String)
  | bytes (bs : List UInt8)
  | list (items : List Value)
  | tuple (items : List Value)
  | dict (entries : List (Value × Value))
  deriving Inhabited

namespace Value

/-- The name of a value's kind, as messages give it. -/
def kindName : Value → String
  | null => "NoneType"
  | bool _ => "bool"
  | int _ => "int"
  | float _ => "float"
  | text _ => "str"
  | bytes _ => "bytes"
  | list _ => "list"
  | tuple _ => "tuple"
  | dict _ => "dict"

/-- Whether a value counts as given: nothing, zero and what is empty do not. -/
def truthy : Value → Bool
  | null => false
  | bool b => b
  | int n => n != 0
  | float x => !(x == 0)
  | text s => !s.isEmpty
  | bytes bs => !bs.isEmpty
  | list items => !items.isEmpty
  | tuple items => !items.isEmpty
  | dict entries => !entries.isEmpty

/-- Whether a value is absent. -/
def isNull : Value → Bool
  | null => true
  | _ => false

/-- Whether a value is the text `s`. -/
def isText (s : String) : Value → Bool
  | text t => t == s
  | _ => false

/-- A dictionary with text keys. -/
def ofFields (fields : List (String × Value)) : Value :=
  dict (fields.map fun f => (text f.1, f.2))

/-- The value under a text key of a list of entries. -/
def lookup (key : String) (entries : List (Value × Value)) : Option Value :=
  (entries.find? fun e => e.1.isText key).map Prod.snd

end Value

/-- The value of a named field. -/
def field? (name : String) (fields : List (String × Value)) : Option Value :=
  (fields.find? fun f => f.1 == name).map Prod.snd

/-- The value of a named field, nothing when there is none. -/
def fieldOrNull (name : String) (fields : List (String × Value)) : Value :=
  (field? name fields).getD .null

end FormEdit
