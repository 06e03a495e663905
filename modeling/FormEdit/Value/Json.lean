import FormEdit.Number.Decimal
import FormEdit.Number.Numeral
import FormEdit.Value.Basic

set_option autoImplicit false

/-! # Values as JSON

A value is written in ASCII alone, either without a blank or over several lines that are set in by
their depth. Keys that are no text are written as the text of their JSON, and bytes have none. -/

namespace FormEdit

/-- How JSON is laid out. -/
inductive JsonLayout where
  | dense
  | spread
  deriving DecidableEq, Repr

/-- Why a value has no JSON. -/
inductive JsonError where
  | wrongKind (kind : String)
  | wrongKeyKind (kind : String)
  | tooLong
  deriving DecidableEq, Repr

namespace JsonError

def message : JsonError → String
  | wrongKind kind => s!"Object of type {kind} is not JSON serializable"
  | wrongKeyKind kind => s!"keys must be str, int, float, bool or None, not {kind}"
  | tooLong => Numeral.unprintableMessage

end JsonError

/-! ## Text -/

/-- A sixteen-bit unit by its number. -/
def jsonUnit (n : Nat) : List Char := '\\' :: 'u' :: hexDigits 4 n

/-- A character as it stands in a JSON string: itself when it is printable ASCII, and else by a
    short escape or the numbers of its units. -/
def jsonChar (c : Char) : List Char :=
  if c = '"' || c = '\\' then ['\\', c]
  else if c = '\n' then ['\\', 'n']
  else if c = '\r' then ['\\', 'r']
  else if c = '\t' then ['\\', 't']
  else if c.toNat = 8 then ['\\', 'b']
  else if c.toNat = 12 then ['\\', 'f']
  else if 32 ≤ c.toNat && c.toNat < 127 then [c]
  else if c.toNat < 0x10000 then jsonUnit c.toNat
  else
    let n := c.toNat - 0x10000
    jsonUnit (0xD800 + n / 0x400) ++ jsonUnit (0xDC00 + n % 0x400)

/-- Text as a JSON string. -/
def jsonString (t : List Char) : List Char := '"' :: (t.flatMap jsonChar ++ ['"'])

example : String.ofList (jsonString ['é', '\n', '😀']) = "\"\\u00e9\\n\\ud83d\\ude00\"" := by decide

/-! ## Values -/

/-- A number as JSON, with words for those that are not finite. -/
def jsonFloat (x : Float) : List Char :=
  match Binary.ofFloat x with
  | .nan => "NaN".toList
  | .infinite negative => (if negative then "-Infinity" else "Infinity").toList
  | .finite .. => (Decimal.shortestText x).toList

/-- A whole number as JSON. -/
def jsonInt (n : Int) : Except JsonError (List Char) :=
  if Numeral.printable n then .ok (toString n).toList else .error .tooLong

/-- The text under which a key is written. -/
def jsonKey : Value → Except JsonError (List Char)
  | .text s => .ok s.toList
  | .null => .ok "null".toList
  | .bool b => .ok (if b then "true" else "false").toList
  | .int n => jsonInt n
  | .float x => .ok (jsonFloat x)
  | v => .error (.wrongKeyKind v.kindName)

namespace JsonLayout

/-- What stands before an item at a depth. -/
def lineStart : JsonLayout → Nat → List Char
  | dense, _ => []
  | spread, depth => '\n' :: List.replicate (2 * depth) ' '

/-- What stands between a key and its value. -/
def afterKey : JsonLayout → List Char
  | dense => [':']
  | spread => [':', ' ']

/-- Items between brackets, which stand at a depth. -/
def enclose (l : JsonLayout) (depth : Nat) (opening closing : Char) :
    List (List Char) → List Char
  | [] => [opening, closing]
  | items =>
    let items := items.map fun t => l.lineStart (depth + 1) ++ t
    opening :: (([','].intercalate items) ++ l.lineStart depth ++ [closing])

end JsonLayout

namespace Value

mutual

/-- A value as JSON at a depth. -/
def json (l : JsonLayout) (depth : Nat) : Value → Except JsonError (List Char)
  | null => .ok "null".toList
  | bool b => .ok (if b then "true" else "false").toList
  | int n => jsonInt n
  | float x => .ok (jsonFloat x)
  | text s => .ok (jsonString s.toList)
  | bytes _ => .error (.wrongKind "bytes")
  | list items => (jsonItems l (depth + 1) items).map (l.enclose depth '[' ']')
  | tuple items => (jsonItems l (depth + 1) items).map (l.enclose depth '[' ']')
  | dict entries => (jsonEntries l (depth + 1) entries).map (l.enclose depth '\x7b' '\x7d')

/-- The items of a list as JSON. -/
def jsonItems (l : JsonLayout) (depth : Nat) : List Value → Except JsonError (List (List Char))
  | [] => .ok []
  | v :: r => do return (← json l depth v) :: (← jsonItems l depth r)

/-- The entries of a dictionary as JSON. -/
def jsonEntries (l : JsonLayout) (depth : Nat) :
    List (Value × Value) → Except JsonError (List (List Char))
  | [] => .ok []
  | (k, v) :: r => do
    let k ← jsonKey k
    let v ← json l depth v
    return (jsonString k ++ l.afterKey ++ v) :: (← jsonEntries l depth r)

end

/-- A value as JSON. -/
def jsonText (l : JsonLayout) (v : Value) : Except JsonError String :=
  (v.json l 0).map String.ofList

end Value

end FormEdit
