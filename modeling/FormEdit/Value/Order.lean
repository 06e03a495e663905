import FormEdit.Number.Binary
import FormEdit.Value.Basic

set_option autoImplicit false

/-! # Comparing values

Numbers of every kind, truth values among them, are compared by what they denote. Text is ordered
by code points and bytes by their numbers; lists, and tuples, go item by item. All else has
equality only, and asking for its order is a mistake of the caller. -/

namespace FormEdit

/-- What a number denotes: a quotient, an infinity, or nothing at all. -/
inductive Magnitude where
  | undefined
  | infinite (negative : Bool)
  | quotient (numerator : Int) (denominator : Nat)

namespace Magnitude

def ofFloat (x : Float) : Magnitude :=
  match Binary.ofFloat x with
  | .nan => .undefined
  | .infinite negative => .infinite negative
  | .finite negative m e =>
    let (num, den) := Binary.quotient m e
    .quotient (if negative then -(num : Int) else num) den

/-- Whether two numbers denote the same. What denotes nothing equals nothing. -/
def same : Magnitude → Magnitude → Bool
  | infinite a, infinite b => a == b
  | quotient a d, quotient b e => a * e == b * d
  | _, _ => false

/-- Whether the first number is below the second. -/
def less : Magnitude → Magnitude → Bool
  | infinite a, infinite b => a && !b
  | infinite a, quotient _ _ => a
  | quotient _ _, infinite b => !b
  | quotient a d, quotient b e => a * e < b * d
  | _, _ => false

end Magnitude

namespace Value

/-- What a value denotes as a number, if it is one. -/
def magnitude? : Value → Option Magnitude
  | bool b => some (.quotient (if b then 1 else 0) 1)
  | int n => some (.quotient n 1)
  | float x => some (.ofFloat x)
  | _ => none

mutual

/-- Whether two values are equal. The order of a dictionary's entries does not matter. -/
def same : Value → Value → Bool
  | null, null => true
  | text s, text t => s == t
  | bytes a, bytes b => a == b
  | list a, list b => sameItems a b
  | tuple a, tuple b => sameItems a b
  | dict a, dict b => a.length == b.length && entriesIn a b
  | a, b =>
    match a.magnitude?, b.magnitude? with
    | some m, some n => m.same n
    | _, _ => false

/-- Whether two lists have equal items. -/
def sameItems : List Value → List Value → Bool
  | [], [] => true
  | a :: r, b :: s => same a b && sameItems r s
  | _, _ => false

/-- Whether each entry of the first list has an equal one in the second. -/
def entriesIn : List (Value × Value) → List (Value × Value) → Bool
  | [], _ => true
  | (k, v) :: r, entries =>
    (entries.any fun e => same k e.1 && same v e.2) && entriesIn r entries

end

mutual

/-- Whether the first value comes before the second, where the two have an order. -/
def less? : Value → Value → Option Bool
  | text s, text t => some (s < t)
  | bytes a, bytes b => some (a.map UInt8.toNat < b.map UInt8.toNat)
  | list a, list b => lessItems? a b
  | tuple a, tuple b => lessItems? a b
  | a, b =>
    match a.magnitude?, b.magnitude? with
    | some m, some n => some (m.less n)
    | _, _ => none

/-- Compare lists at the first place where their items are not equal; a beginning of a list comes
    before it. -/
def lessItems? : List Value → List Value → Option Bool
  | [], b => some (!b.isEmpty)
  | _ :: _, [] => some false
  | a :: r, b :: s => if same a b then lessItems? r s else less? a b

end

/-- Put an entry into a dictionary. An equal key keeps its place and takes the new value. -/
def insert (entries : List (Value × Value)) (key value : Value) : List (Value × Value) :=
  if entries.any fun e => same e.1 key then
    entries.map fun e => if same e.1 key then (e.1, value) else e
  else entries ++ [(key, value)]

end FormEdit.Value
