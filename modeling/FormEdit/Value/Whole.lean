import FormEdit.Number.Numeral
import FormEdit.Value.Display

set_option autoImplicit false

/-! # Whole numbers from values

Where a whole number is wanted, a fraction is cut off towards zero, a truth value counts as zero
or one, and text is read as a numeral. -/

namespace FormEdit

/-- Why a value stands for no whole number. -/
inductive WholeError where
  | wrongKind (kind : String)
  | malformed (message : String)
  | undefined
  | infinite
  deriving DecidableEq, Repr

namespace WholeError

def message : WholeError → String
  | wrongKind kind =>
    "int() argument must be a string, a bytes-like object or a real number, not '" ++ kind ++ "'"
  | malformed message => message
  | undefined => "cannot convert float NaN to integer"
  | infinite => "cannot convert float infinity to integer"

end WholeError

namespace Value

/-- The whole number that a value stands for. -/
def whole : Value → Except WholeError Int
  | bool b => .ok (if b then 1 else 0)
  | int n => .ok n
  | float x =>
    match Binary.ofFloat x with
    | .nan => .error .undefined
    | .infinite _ => .error .infinite
    | finite => .ok (finite.truncate?.getD 0)
  | text s =>
    match Numeral.ofText s.toList with
    | .ok n => .ok n
    | .error e => .error (.malformed (e.message s.toList))
  | bytes bs =>
    match Numeral.ofBytes bs with
    | .ok n => .ok n
    | .error .malformed =>
      .error (.malformed ("invalid literal for int() with base 10: " ++ String.ofList (quotedBytes bs)))
    | .error e => .error (.malformed (e.message []))
  | v => .error (.wrongKind v.kindName)

end Value

end FormEdit
