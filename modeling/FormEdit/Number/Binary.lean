set_option autoImplicit false

/-! # Binary floating-point numbers, taken apart

A finite number of double precision is a natural number times a power of two, with a sign. The
questions asked here are answered in exact arithmetic on that pair. -/

namespace FormEdit

/-- The parts of a double-precision number. The value of `finite s m e` is `m · 2 ^ e`, negated
    when `s` holds. -/
inductive Binary where
  | nan
  | infinite (negative : Bool)
  | finite (negative : Bool) (mantissa : Nat) (exponent : Int)
  deriving DecidableEq, Repr

namespace Binary

/-- The parts that the sixty-four bits of a number stand for. -/
def ofBits (bits : Nat) : Binary :=
  let negative := Nat.pow 2 63 ≤ bits
  let e : Nat := bits / Nat.pow 2 52 % 2048
  let f : Nat := bits % Nat.pow 2 52
  if e = 2047 then (if f = 0 then .infinite negative else .nan)
  else if e = 0 then .finite negative f (-1074)
  else .finite negative (f + Nat.pow 2 52) ((e : Int) - 1075)

/-- The parts of a number. -/
def ofFloat (x : Float) : Binary := ofBits x.toBits.toNat

/-- A finite number as a quotient, sign aside: the numerator and a denominator above zero. -/
def quotient (m : Nat) (e : Int) : Nat × Nat :=
  if 0 ≤ e then (m * Nat.pow 2 e.toNat, 1) else (m, Nat.pow 2 (-e).toNat)

/-- The whole part of a number, cut towards zero; none for the numbers that are not finite. -/
def truncate? : Binary → Option Int
  | .finite negative m e =>
    let (num, den) := quotient m e
    let n : Int := (num / den : Nat)
    some (if negative then -n else n)
  | _ => none

/-- The number itself when it is whole. -/
def whole? (b : Binary) : Option Int :=
  match b with
  | .finite _ m e =>
    let (num, den) := quotient m e
    if num % den = 0 then b.truncate? else none
  | _ => none

end Binary

/-- The double-precision number nearest to a whole number, unless that is infinite. -/
def floatOfInt? (n : Int) : Option Float :=
  let x := Float.ofScientific n.natAbs false 0
  if x.isInf then none else some (if n < 0 then -x else x)

end FormEdit
