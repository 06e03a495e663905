import FormEdit.Number.Binary

set_option autoImplicit false

/-! # Decimal text of binary numbers

Two texts are written. The shortest text has the fewest digits that read back as the same number,
and of these the digits nearest to it; it is positional from a ten-thousandth up to, not
including, ten to the sixteenth. The general text has six significant digits with trailing zeros
dropped, and is positional from a ten-thousandth up to, not including, a million. Exponents have
a sign and at least two digits in both. -/

namespace FormEdit.Decimal

/-- A positive decimal number `digits · 10 ^ (exponent - places)`, where `places` is the number
    of digits less one: `exponent` is that of the first digit. -/
structure Scientific where
  digits : Nat
  exponent : Int
  deriving DecidableEq, Repr

/-- The largest `k` with `10 ^ k ≤ num / den`, looked for downwards from `k + fuel`. -/
def magnitudeFrom (num den : Nat) (k : Int) : Nat → Int
  | 0 => k
  | fuel + 1 =>
    let top := k + (fuel + 1 : Nat)
    let reached :=
      if 0 ≤ top then den * Nat.pow 10 top.toNat ≤ num else den ≤ num * Nat.pow 10 (-top).toNat
    if reached then top else magnitudeFrom num den k fuel

/-- The exponent of the first digit of a positive quotient. The number of binary digits gives it
    up to one or two. -/
def magnitude (num den : Nat) : Int :=
  let bits : Int := (num.log2 : Int) - (den.log2 : Int)
  magnitudeFrom num den (Int.fdiv (bits * 30103) 100000 - 2) 4

/-- The quotient in units of `10 ^ unit`, as a new numerator and denominator. -/
def inUnits (num den : Nat) (unit : Int) : Nat × Nat :=
  if 0 ≤ unit then (num, den * Nat.pow 10 unit.toNat) else (num * Nat.pow 10 (-unit).toNat, den)

/-- The interval of reals that round to `m · 2 ^ e`, as three numerators over one denominator:
    its lower end, the number itself and its upper end. -/
def rounding (m : Nat) (e : Int) : Nat × Nat × Nat × Nat :=
  let (num, den) := Binary.quotient 1 (e - 2)
  let below := if m = Nat.pow 2 52 && -1074 < e then 4 * m - 1 else 4 * m - 2
  (below * num, 4 * m * num, (4 * m + 2) * num, den)

/-- The `n`-digit decimal nearest to `m · 2 ^ e` if it reads back as that number. -/
def shortestOf (m : Nat) (e : Int) (exponent : Int) (n : Nat) : Option Nat :=
  let (low, mid, high, den) := rounding m e
  let unit := exponent - (n - 1 : Nat)
  let (scaled, scale) := inUnits 1 1 unit
  -- a count `c` of units is the quotient `c · scale / scaled`
  let inside (c : Nat) : Bool :=
    let v := c * scale * den
    if m % 2 = 0 then low * scaled ≤ v && v ≤ high * scaled
    else low * scaled < v && v < high * scaled
  let c := mid * scaled / (den * scale)
  let gapBelow := mid * scaled - c * scale * den
  let gapAbove := (c + 1) * scale * den - mid * scaled
  match inside c, inside (c + 1) with
  | true, true =>
    if gapBelow < gapAbove || (gapBelow = gapAbove && c % 2 = 0) then some c else some (c + 1)
  | true, false => some c
  | false, true => some (c + 1)
  | false, false => none

/-- Drop the trailing zeros of a digit row. -/
def dropZeros (n : Nat) : Nat → Nat
  | 0 => n
  | fuel + 1 => if n % 10 = 0 then dropZeros (n / 10) fuel else n

/-- A count of units as a scientific number, without trailing zeros. -/
def Scientific.ofUnits (c : Nat) (unit : Int) : Scientific :=
  let length := (Nat.toDigits 10 c).length
  ⟨dropZeros c length, unit + (length - 1 : Nat)⟩

/-- The fewest digits that read back as the positive number `m · 2 ^ e`. Seventeen always do. -/
def shortest (m : Nat) (e : Int) : Scientific :=
  let (num, den) := Binary.quotient m e
  let exponent := magnitude num den
  let hit := (List.range 17).findSome? fun k =>
    (shortestOf m e exponent (k + 1)).map fun c => Scientific.ofUnits c (exponent - (k : Nat))
  hit.getD ⟨0, 0⟩

/-- The positive number `m · 2 ^ e` rounded to `n` digits, halves going to the even digit. -/
def rounded (n : Nat) (m : Nat) (e : Int) : Scientific :=
  let (num, den) := Binary.quotient m e
  let unit := magnitude num den - (n - 1 : Nat)
  let (num, den) := inUnits num den unit
  let c := num / den
  let r := num % den
  let up := den < 2 * r || (den = 2 * r && c % 2 = 1)
  Scientific.ofUnits (if up then c + 1 else c) unit

/-- How a decimal number is set: below which exponent positional notation ends, and whether a
    whole number keeps a zero behind the point. -/
structure Style where
  positionalBelow : Int
  keepPoint : Bool

/-- The exponent with its sign and at least two digits. -/
def exponentText (e : Int) : String :=
  let ds := toString e.natAbs
  (if e < 0 then "e-" else "e+") ++ (if ds.length < 2 then "0" ++ ds else ds)

/-- A positive scientific number as text. -/
def Scientific.text (style : Style) (s : Scientific) : String :=
  let ds := Nat.toDigits 10 s.digits
  let zeros (n : Int) : List Char := List.replicate n.toNat '0'
  if -4 ≤ s.exponent && s.exponent < style.positionalBelow then
    if s.exponent < 0 then String.ofList ('0' :: '.' :: (zeros (-s.exponent - 1) ++ ds))
    else
      let front := ds.take (s.exponent.toNat + 1)
      let back := ds.drop (s.exponent.toNat + 1)
      let front := front ++ zeros (s.exponent + 1 - front.length)
      if back.isEmpty then String.ofList (if style.keepPoint then front ++ ['.', '0'] else front)
      else String.ofList (front ++ '.' :: back)
  else
    match ds with
    | [] => ""
    | [d] => String.ofList [d] ++ exponentText s.exponent
    | d :: r => String.ofList (d :: '.' :: r) ++ exponentText s.exponent

/-- The text of any number, given the texts of zero and of the positive finite numbers. -/
def textWith (zero : String) (positive : Nat → Int → String) (x : Float) : String :=
  let signed (negative : Bool) (s : String) := if negative then "-" ++ s else s
  match Binary.ofFloat x with
  | .nan => "nan"
  | .infinite negative => signed negative "inf"
  | .finite negative m e => signed negative (if m = 0 then zero else positive m e)

/-- The shortest text that reads back as the number. -/
def shortestText (x : Float) : String :=
  textWith "0.0" (fun m e => (shortest m e).text ⟨16, true⟩) x

/-- The number in six significant digits. -/
def generalText (x : Float) : String :=
  textWith "0" (fun m e => (rounded 6 m e).text ⟨6, false⟩) x

/-! ## Reading -/

/-- Split off the decimal digits in front, read as a number, with their count. -/
def takeDigits (t : List Char) : Nat × Nat × List Char :=
  let ds := t.takeWhile Char.isDigit
  (ds.foldl (fun n c => 10 * n + (c.toNat - 48)) 0, ds.length, t.drop ds.length)

/-- An exponent in front of the end of a text, zero when there is none. -/
def readExponent : List Char → Option Int
  | [] => some 0
  | c :: r =>
    if c = 'e' || c = 'E' then
      let (negative, r) := match r with
        | '+' :: r => (false, r)
        | '-' :: r => (true, r)
        | r => (false, r)
      match takeDigits r with
      | (n, _ + 1, []) => some (if negative then -(n : Int) else n)
      | _ => none
    else none

/-- The number `n · 10 ^ e` in double precision. An exponent far beyond the range gives zero or
    infinity. -/
def scaled (n : Nat) (e : Int) : Float :=
  if n = 0 then 0
  else if 400 < e + (Nat.toDigits 10 n).length then Float.ofScientific 1 false 400
  else if e + (Nat.toDigits 10 n).length < -400 then 0
  else if 0 ≤ e then Float.ofScientific n false e.toNat
  else Float.ofScientific n true (-e).toNat

/-- Read an unsigned number: digits with a point or an exponent, `inf` or `nan`. -/
def readUnsigned (t : List Char) : Option Float :=
  if t = ['i', 'n', 'f'] then some (1 / 0)
  else if t = ['n', 'a', 'n'] then some (0 / 0)
  else
    match takeDigits t with
    | (_, 0, _) => none
    | (n, _, '.' :: r) =>
      match takeDigits r with
      | (_, 0, _) => none
      | (f, k, r) => (readExponent r).map fun e => scaled (n * Nat.pow 10 k + f) (e - k)
    | (n, _, r) => (readExponent r).map fun e => scaled n e

/-- Read a number with an optional sign. -/
def read? : List Char → Option Float
  | '-' :: t => (readUnsigned t).map (- ·)
  | '+' :: t => readUnsigned t
  | t => readUnsigned t

end FormEdit.Decimal
