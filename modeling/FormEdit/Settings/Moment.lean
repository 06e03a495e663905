set_option autoImplicit false

/-! # Dates and times

A settings file may hold a date, a time of day, or both with or without the distance to universal
time. Fractions of a second count to the millionth. -/

namespace FormEdit.Toml

/-- A day of the calendar. -/
structure Date where
  year : Nat
  month : Nat
  day : Nat
  deriving DecidableEq, Repr

/-- A time of day. -/
structure Clock where
  hour : Nat
  minute : Nat
  second : Nat
  micro : Nat
  deriving DecidableEq, Repr

/-- A date, a time, or both with the minutes that they are ahead of universal time, if that is
    known. -/
inductive Moment where
  | date (d : Date)
  | clock (c : Clock)
  | both (d : Date) (c : Clock) (ahead : Option Int)
  deriving DecidableEq, Repr

/-! ## Texts -/

/-- A number with zeros before it, in `width` digits at least. -/
def padded (width n : Nat) : String :=
  let digits := Nat.toDigits 10 n
  String.ofList (List.replicate (width - digits.length) '0' ++ digits)

/-- Numbers with commas between them. -/
def numberRow (ns : List Nat) : String := String.intercalate ", " (ns.map toString)

namespace Date

def isLeap (year : Nat) : Bool := year % 4 = 0 && (year % 100 ≠ 0 || year % 400 = 0)

/-- The number of days of a month. -/
def daysIn (year month : Nat) : Nat :=
  if month = 2 then (if isLeap year then 29 else 28)
  else if month = 4 || month = 6 || month = 9 || month = 11 then 30
  else 31

/-- Whether a date is one of the calendar, which begins with the year one. -/
def isValid (d : Date) : Bool := d.year ≠ 0 && d.day ≤ daysIn d.year d.month

def text (d : Date) : String := padded 4 d.year ++ "-" ++ padded 2 d.month ++ "-" ++ padded 2 d.day

def numbers (d : Date) : List Nat := [d.year, d.month, d.day]

end Date

namespace Clock

def text (c : Clock) : String :=
  let fraction := if c.micro = 0 then "" else "." ++ padded 6 c.micro
  padded 2 c.hour ++ ":" ++ padded 2 c.minute ++ ":" ++ padded 2 c.second ++ fraction

/-- The numbers of a time, without the seconds and millionths at its end that are zero. -/
def numbers (c : Clock) : List Nat :=
  if c.micro ≠ 0 then [c.hour, c.minute, c.second, c.micro]
  else if c.second ≠ 0 then [c.hour, c.minute, c.second]
  else [c.hour, c.minute]

end Clock

namespace Moment

/-- The name of a moment's kind, as messages give it. -/
def kindName : Moment → String
  | date _ => "date"
  | clock _ => "time"
  | both .. => "datetime"

/-- How far a time is ahead of universal time. -/
def aheadText (ahead : Int) : String :=
  let n := ahead.natAbs
  (if ahead < 0 then "-" else "+") ++ padded 2 (n / 60) ++ ":" ++ padded 2 (n % 60)

def text : Moment → String
  | date d => d.text
  | clock c => c.text
  | both d c ahead => d.text ++ " " ++ c.text ++ (ahead.map aheadText).getD ""

/-- The quoted form of the distance to universal time. A negative one is a day less and seconds
    more. -/
def aheadForm (ahead : Int) : String :=
  if ahead = 0 then "datetime.timezone.utc"
  else
    let days := if ahead < 0 then "days=-1, " else ""
    s!"datetime.timezone(datetime.timedelta({days}seconds={(60 * ahead) % 86400}))"

/-- The quoted form of a moment. -/
def quotedForm : Moment → String
  | date d => s!"datetime.date({numberRow d.numbers})"
  | clock c => s!"datetime.time({numberRow c.numbers})"
  | both d c ahead =>
    let zone := (ahead.map fun n => ", tzinfo=" ++ aheadForm n).getD ""
    s!"datetime.datetime({numberRow (d.numbers ++ c.numbers)}{zone})"

/-! ## Reading -/

/-- Read a number of exactly `width` digits. -/
def readFixed (width : Nat) (t : List Char) : Option (Nat × List Char) :=
  let digits := t.take width
  if digits.length = width && digits.all Char.isDigit then
    some (digits.foldl (fun n c => 10 * n + (c.toNat - 48)) 0, t.drop width)
  else none

/-- Read a number of two digits between two bounds. -/
def readBetween (low high : Nat) (t : List Char) : Option (Nat × List Char) :=
  match readFixed 2 t with
  | some (n, r) => if low ≤ n && n ≤ high then some (n, r) else none
  | none => none

/-- Read a character. -/
def readMark (mark : Char) : List Char → Option (List Char)
  | c :: r => if c = mark then some r else none
  | [] => none

/-- Read a date, whose day may be none of its month. -/
def readDate (t : List Char) : Option (Date × List Char) := do
  let (year, t) ← readFixed 4 t
  let (month, t) ← readBetween 1 12 (← readMark '-' t)
  let (day, t) ← readBetween 1 31 (← readMark '-' t)
  return (⟨year, month, day⟩, t)

/-- Read the fraction of a second in millionths, zero if there is none. -/
def readMicro (t : List Char) : Nat × List Char :=
  match t with
  | '.' :: r =>
    let digits := r.takeWhile Char.isDigit
    if digits.isEmpty then (0, t)
    else
      let six := digits.take 6 ++ List.replicate (6 - digits.length) '0'
      (six.foldl (fun n c => 10 * n + (c.toNat - 48)) 0, r.dropWhile Char.isDigit)
  | t => (0, t)

/-- Read a time of day. -/
def readClock (t : List Char) : Option (Clock × List Char) := do
  let (hour, t) ← readBetween 0 23 t
  let (minute, t) ← readBetween 0 59 (← readMark ':' t)
  let (second, t) ← readBetween 0 59 (← readMark ':' t)
  let (micro, t) := readMicro t
  return (⟨hour, minute, second, micro⟩, t)

/-- Read how far a time is ahead of universal time. -/
def readAhead (t : List Char) : Option (Int × List Char) :=
  match t with
  | [] => none
  | c :: r =>
    if c = 'Z' || c = 'z' then some (0, r)
    else if c = '+' || c = '-' then do
      let (hour, r) ← readBetween 0 23 r
      let (minute, r) ← readBetween 0 59 (← readMark ':' r)
      let ahead : Int := (60 * hour + minute : Nat)
      return (if c = '-' then -ahead else ahead, r)
    else none

/-- Read the time behind a date, and what may follow it. -/
def readRest (d : Date) (t : List Char) : Moment × List Char :=
  match t with
  | [] => (date d, t)
  | c :: r =>
    if c = 'T' || c = 't' || c = ' ' then
      match readClock r with
      | none => (date d, t)
      | some (c, r) =>
        match readAhead r with
        | none => (both d c none, r)
        | some (ahead, r) => (both d c (some ahead), r)
    else (date d, t)

/-- Whether a moment's date is one of the calendar. -/
def isValid : Moment → Bool
  | date d | both d _ _ => d.isValid
  | clock _ => true

/-- Read a moment, which may be none of the calendar. -/
def read? (t : List Char) : Option (Moment × List Char) :=
  match readDate t with
  | some (d, r) => some (readRest d r)
  | none => (readClock t).map fun (c, r) => (clock c, r)

end Moment

end FormEdit.Toml
