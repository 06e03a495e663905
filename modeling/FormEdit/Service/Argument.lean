import FormEdit.Command.Basic

set_option autoImplicit false

/-! # Arguments of tools

A tool declares its parameters, and a call is checked against them: a name that is not declared is
refused, as is one that is needed and missing, and every argument is brought to the kind that its
parameter wants or refused. -/

namespace FormEdit

/-- What an argument has to be. -/
inductive ArgumentKind where
  | text
  | whole
  | flag
  deriving DecidableEq, Repr

/-! ## Text that writes a value -/

/-- Drop the zeros and underscores in front of a number, and in front of a minus sign behind them.
    A zero stays in front of a point. At the end stays the character dropped last, which is
    `last` so far. -/
def dropLeadingZeros (last : Char) : List Char → List Char
  | [] => [last]
  | c :: r =>
    if c = '0' || c = '_' then dropLeadingZeros c r
    else if c = '.' then last :: c :: r
    else c :: r

/-- A text without its point and the zeros behind it, when at least one zero and nothing else is
    there. -/
def dropZeroFraction (t : List Char) : List Char :=
  match t.dropWhile (· != '.') with
  | _ :: '0' :: r => if r.all (· = '0') then t.takeWhile (· != '.') else t
  | _ => t

/-- Whether each underscore has a character other than that on both sides, given the character
    in front. -/
def parted (before : Char) : List Char → Bool
  | [] => before != '_'
  | c :: r => !(before = '_' && c = '_') && parted c r

/-- A text without its underscores, when each of them parts two other characters. -/
def dropUnderscores (t : List Char) : List Char :=
  if parted '_' t then t.filter (· != '_') else t

/-- A number without a sign in front of which zeros may stand, brought to digits alone if it can
    be. -/
def bareNumber? (t : List Char) : Option (List Char) :=
  match t with
  | '0' :: r => some (dropUnderscores (dropZeroFraction (dropLeadingZeros '0' r)))
  | c :: _ => if c.isDigit then some (dropUnderscores (dropZeroFraction t)) else none
  | [] => none

/-- The number that digits write, with no zero in front of another digit. -/
def readDigits? : List Char → Option Nat
  | ['0'] => some 0
  | '0' :: _ => none
  | [] => none
  | t => if t.all Char.isDigit then some (Decimal.takeDigits t).1 else none

/-- The whole number that digits write behind at most a minus sign, when that is not too long. -/
def readSigned? (t : List Char) : Option Int :=
  if Numeral.maxDigits < t.length then none
  else
    match t with
    | '-' :: t => (readDigits? t).map fun n => -(n : Int)
    | t => (readDigits? t).map fun n => (n : Int)

/-- The whole number that a text writes: digits with a sign, white space around them, underscores
    between them, zeros in front, and a point with nothing but zeros behind it. -/
def wholeOfText? (t : List Char) : Option Int :=
  match trimEnds isWhiteSpace t with
  | '-' :: t => (bareNumber? t).bind fun t => readSigned? ('-' :: t)
  | '+' :: t => (bareNumber? t).bind readSigned?
  | t => (bareNumber? t).bind readSigned?

/-- The truth value that a text names. -/
def flagOfText? (s : String) : Option Bool :=
  let name := String.ofList (s.toList.map Char.toLower)
  if ["1", "on", "t", "true", "y", "yes"].contains name then some true
  else if ["0", "off", "f", "false", "n", "no"].contains name then some false
  else none

namespace ArgumentKind

/-- The whole number that a number is, when it is below two to the sixty-third in size. -/
def wholeOfFloat? (x : Float) : Option Int :=
  (Binary.ofFloat x).whole?.filter fun n => n.natAbs < Nat.pow 2 63

/-- A value as a whole number, when it is one or writes one. -/
def whole? : Value → Option Int
  | .bool b => some (if b then 1 else 0)
  | .int n => some n
  | .float x => wholeOfFloat? x
  | .text s => wholeOfText? s.toList
  | _ => none

/-- A value as a truth value, when it is one, names one, or is the number zero or one. -/
def flag? : Value → Option Bool
  | .bool b => some b
  | .text s => flagOfText? s
  | .int n => ofNumber n
  | .float x => (Binary.ofFloat x).whole?.bind ofNumber
  | _ => none
where
  /-- The truth value that a number stands for. -/
  ofNumber (n : Int) : Option Bool :=
    if n = 0 then some false else if n = 1 then some true else none

/-- Bring a value to a kind. -/
def convert? : ArgumentKind → Value → Option Value
  | text, .text s => some (.text s)
  | text, _ => none
  | whole, v => (whole? v).map .int
  | flag, v => (flag? v).map .bool

end ArgumentKind

/-- A parameter that a tool declares. One with a default may be left out, and may be null if its
    default is. -/
structure ToolParameter where
  name : String
  kind : ArgumentKind
  default? : Option Value

namespace ToolParameter

/-- A parameter that a call has to give. -/
def needed (name : String) (kind : ArgumentKind) : ToolParameter := ⟨name, kind, none⟩

/-- A parameter that a call may leave out. -/
def optional (name : String) (kind : ArgumentKind) : ToolParameter := ⟨name, kind, some .null⟩

/-- A parameter that a call may leave out, to the same effect as giving a value. -/
def withDefault (name : String) (kind : ArgumentKind) (v : Value) : ToolParameter :=
  ⟨name, kind, some v⟩

/-- Whether a call may give null. -/
def allowsNull (p : ToolParameter) : Bool := p.default?.elim false Value.isNull

end ToolParameter

/-- What a value is when it has travelled in a message. Numbers that are not finite are left out of
    messages, and bytes travel as the text that they encode. -/
def Value.delivered? : Value → Option Value
  | .float x =>
    match Binary.ofFloat x with
    | .finite .. => some (.float x)
    | _ => some .null
  | .bytes bs => (Utf8.decode bs).toOption.map fun t => .text (String.ofList t)
  | v => some v

/-- What is wrong with a call. -/
inductive CallError where
  | unknownTool (name : String)
  | unknownArgument (name : String)
  | missingArgument (name : String)
  | unfitArgument (name : String)
  | failed (failure : Failure)

namespace ToolParameter

/-- The argument that a call gives for a parameter. -/
def argument (p : ToolParameter) (given : Parameters) : Except CallError Value :=
  match field? p.name given, p.default? with
  | none, none => .error (.missingArgument p.name)
  | none, some v => .ok v
  | some v, _ =>
    match v.delivered? with
    | none => .error (.unfitArgument p.name)
    | some v =>
      if v.isNull && p.allowsNull then .ok .null
      else
        match p.kind.convert? v with
        | some v => .ok v
        | none => .error (.unfitArgument p.name)

/-- The arguments that a call gives for parameters, one each. -/
def arguments (ps : List ToolParameter) (given : Parameters) : Except CallError Parameters :=
  match given.find? fun g => !ps.any fun p => p.name == g.1 with
  | some g => .error (.unknownArgument g.1)
  | none => ps.mapM fun p => (fun v => (p.name, v)) <$> p.argument given

end ToolParameter

end FormEdit
