import FormEdit.Number.Numeral
import FormEdit.Text.Utf8
import FormEdit.Value.Order

set_option autoImplicit false

/-! # Writing bencode

Text and bytes are written behind their length, numbers between `i` and `e`, lists between `l` and
`e`, and dictionaries between `d` and `e` with their entries in order of their keys. Text keys are
bytes when they are put in order, so that a key that cannot be written is found before all else. -/

namespace FormEdit.Bencode

/-- Why a value has no bencode. Keys that have no order cannot be sorted, a number with too many
    digits cannot be printed, and a text with surrogates cannot be written. -/
inductive EncodeError where
  | unsupported (kind : String)
  | unordered
  | unprintable
  | unwritable (x : Utf8.Unwritable)
  deriving DecidableEq, Repr

def EncodeError.message : EncodeError → String
  | unsupported kind => if kind == "bool" then "Cannot bencode a bool" else s!"Cannot bencode {kind}"
  | unordered => "Keys have no order"
  | unprintable => Numeral.unprintableMessage
  | unwritable x => x.message

/-- The bytes of an ASCII text. -/
def ascii (s : String) : List UInt8 := Utf8.encode s.toList

/-- Bytes behind their length. -/
def counted (bs : List UInt8) : List UInt8 := ascii (toString bs.length) ++ (58 :: bs)

/-- A key as it stands in the order of keys: text is bytes there. -/
def orderKey : Value → Value
  | .text s => .bytes (Utf8.encode s.toList)
  | k => k

/-- Why the text keys of entries cannot be written, if they cannot. -/
def unwritableKey? (u : Utf8.StandIns) : List (Value × Value) → Option Utf8.Unwritable
  | [] => none
  | (.text s, _) :: r =>
    match Utf8.unwritableFrom? u 0 s.toList with
    | some x => some x
    | none => unwritableKey? u r
  | _ :: r => unwritableKey? u r

/-- An entry of a dictionary with the writing of its key and value, or the first reason why they
    have none. -/
structure CodedEntry where
  key : Value
  value : Value
  code : Except EncodeError (List UInt8)

namespace CodedEntry

/-- Whether an entry comes before another: by key, and with equal keys by value. -/
def before (a b : CodedEntry) : Option Bool := Value.lessItems? [a.key, a.value] [b.key, b.value]

/-- Put an entry into a sorted list given from its end: behind every entry that it does not come
    before. -/
def place (e : CodedEntry) : List CodedEntry → Option (List CodedEntry)
  | [] => some [e]
  | l :: r =>
    match e.before l with
    | none => none
    | some true => (place e r).map (l :: ·)
    | some false => some (e :: l :: r)

/-- Add entries to a sorted list given from its end. -/
def sortOnto (sorted : List CodedEntry) : List CodedEntry → Option (List CodedEntry)
  | [] => some sorted
  | e :: r =>
    match e.place sorted with
    | none => none
    | some sorted => sortOnto sorted r

/-- The entries in order, if they have one. -/
def sort (es : List CodedEntry) : Option (List CodedEntry) := (sortOnto [] es).map List.reverse

/-- The writings of entries one behind the other, up to the first that has none. -/
def codes : List CodedEntry → Except EncodeError (List UInt8)
  | [] => .ok []
  | e :: r =>
    match e.code with
    | .error x => .error x
    | .ok bs =>
      match codes r with
      | .error x => .error x
      | .ok cs => .ok (bs ++ cs)

end CodedEntry

section

variable (u : Utf8.StandIns)

mutual

/-- The bencode of a value. -/
def encode : Value → Except EncodeError (List UInt8)
  | .bytes bs => .ok (counted bs)
  | .text s =>
    match Utf8.write u s.toList with
    | .error x => .error (.unwritable x)
    | .ok bs => .ok (counted bs)
  | .int n =>
    if Numeral.printable n then .ok (105 :: (ascii (toString n) ++ [101])) else .error .unprintable
  | .list items | .tuple items =>
    match encodeItems items with
    | .error x => .error x
    | .ok cs => .ok (108 :: (cs ++ [101]))
  | .dict entries =>
    match unwritableKey? u entries with
    | some x => .error (.unwritable x)
    | none =>
      match CodedEntry.sort (codedEntries entries) with
      | none => .error .unordered
      | some es =>
        match CodedEntry.codes es with
        | .error x => .error x
        | .ok cs => .ok (100 :: (cs ++ [101]))
  | .null => .error (.unsupported "NoneType")
  | .bool _ => .error (.unsupported "bool")
  | .float _ => .error (.unsupported "float")

/-- The bencode of values one behind the other. -/
def encodeItems : List Value → Except EncodeError (List UInt8)
  | [] => .ok []
  | v :: r =>
    match encode v with
    | .error x => .error x
    | .ok bs =>
      match encodeItems r with
      | .error x => .error x
      | .ok cs => .ok (bs ++ cs)

/-- The entries of a dictionary with their writings. -/
def codedEntries : List (Value × Value) → List CodedEntry
  | [] => []
  | (k, v) :: r =>
    let code :=
      match encode k with
      | .error x => .error x
      | .ok bs =>
        match encode v with
        | .error x => .error x
        | .ok cs => .ok (bs ++ cs)
    ⟨orderKey k, v, code⟩ :: codedEntries r

end

end

end FormEdit.Bencode
