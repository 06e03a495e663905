import FormEdit.Text.Blank
import FormEdit.Text.Digit
import FormEdit.Text.Quoted

set_option autoImplicit false

/-! # Decimal numerals

A numeral is a whole number in decimal digits of any script, with an optional sign, single
underscores between digits and blanks around it. Leading zeros are allowed. The number of digits
of a numeral is limited, in reading and in printing. -/

namespace FormEdit.Numeral

/-- The most digits that a numeral may have. -/
def maxDigits : Nat := 4300

/-- Why a text is no numeral. -/
inductive Fault where
  | malformed
  | tooLong (digits : Nat)
  deriving DecidableEq, Repr

/-- What a numeral is made of. -/
inductive Symbol where
  | digit (value : Nat)
  | underscore
  | plus
  | minus
  | blank
  | other
  deriving DecidableEq, Repr

namespace Symbol

/-- The part that an ASCII character plays, if any. -/
def ofAscii (n : Nat) : Symbol :=
  if 48 ≤ n && n ≤ 57 then .digit (n - 48)
  else if n = 95 then .underscore
  else if n = 43 then .plus
  else if n = 45 then .minus
  else if n = 32 || (9 ≤ n && n ≤ 13) then .blank
  else .other

/-- The part that a character plays. The separators 28 to 31 are no blanks here. -/
def ofChar (c : Char) : Symbol :=
  if c.toNat < 127 then ofAscii c.toNat
  else if isBlank c then .blank
  else
    match decimalDigit? c with
    | some d => .digit d
    | none => .other

/-- The part that a byte plays. -/
def ofByte (b : UInt8) : Symbol := ofAscii b.toNat

/-- Whether a symbol may stand inside the digits of a numeral. -/
def isInner : Symbol → Bool
  | .digit _ => true
  | .underscore => true
  | _ => false

end Symbol

/-- Whether every underscore stands between two digits, given whether a digit stands before. -/
def wellPlaced (afterDigit : Bool) : List Symbol → Bool
  | [] => afterDigit
  | .digit _ :: r => wellPlaced true r
  | .underscore :: r => afterDigit && wellPlaced false r
  | _ :: _ => false

/-- The digits among the symbols. -/
def digits (s : List Symbol) : List Nat :=
  s.filterMap fun
    | .digit d => some d
    | _ => none

/-- The number that a row of decimal digits denotes. -/
def value (ds : List Nat) : Nat := ds.foldl (fun n d => 10 * n + d) 0

/-- Take a sign from the front: whether it is a minus, and what follows. -/
def takeSign : List Symbol → Bool × List Symbol
  | .plus :: r => (false, r)
  | .minus :: r => (true, r)
  | s => (false, s)

/-- Read a numeral. Too many digits are reported before what follows the digits is looked at. -/
def ofSymbols (s : List Symbol) : Except Fault Int :=
  let (negative, s) := takeSign (s.dropWhile (· == .blank))
  let body := s.takeWhile Symbol.isInner
  let rest := s.dropWhile Symbol.isInner
  let ds := digits body
  if !wellPlaced false body then .error .malformed
  else if maxDigits < ds.length then .error (.tooLong ds.length)
  else if !rest.all (· == .blank) then .error .malformed
  else .ok (if negative then -(value ds : Int) else value ds)

/-- The whole number that a text denotes. -/
def ofText (t : List Char) : Except Fault Int := ofSymbols (t.map Symbol.ofChar)

/-- The whole number that ASCII bytes denote. -/
def ofBytes (bs : List UInt8) : Except Fault Int := ofSymbols (bs.map Symbol.ofByte)

/-- The wording of a fault in the numeral `t`, of which at most two hundred characters are
    quoted. -/
def Fault.message (t : List Char) : Fault → String
  | .malformed =>
    "invalid literal for int() with base 10: " ++ String.ofList ((quoted t).take 200)
  | .tooLong n =>
    s!"Exceeds the limit ({maxDigits} digits) for integer string conversion: value has {n} "
      ++ s!"digits; use sys.set_int_max_str_digits() to increase the limit"

/-- Whether a number has few enough digits to be printed. -/
def printable (n : Int) : Bool := n.natAbs < Nat.pow 10 maxDigits

/-- The wording of a refusal to print a number. -/
def unprintableMessage : String :=
  s!"Exceeds the limit ({maxDigits} digits) for integer string conversion; "
    ++ s!"use sys.set_int_max_str_digits() to increase the limit"

end FormEdit.Numeral
