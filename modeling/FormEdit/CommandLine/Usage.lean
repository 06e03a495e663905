set_option autoImplicit false

/-! # Reading a command line

A command line has arguments and switches. A switch has a long name behind two dashes and perhaps
a letter behind one; it either stands alone or takes a value. Letters may stand together behind
one dash, and a value may follow its switch in the same word. Two dashes alone end the switches. -/

namespace FormEdit

/-- A switch of a command line. -/
structure Switch where
  name : String
  letter : Option Char
  takesValue : Bool
  deriving DecidableEq, Repr

namespace Switch

/-- A switch that stands alone. -/
def flag (name : String) (letter : Option Char) : Switch := ⟨name, letter, false⟩

/-- A switch that takes a value. -/
def valued (name : String) (letter : Option Char) : Switch := ⟨name, letter, true⟩

/-- The switch that asks for help, which every command line knows. -/
def help : Switch := flag "help" none

end Switch

/-- What is wrong with a command line. -/
inductive UsageError where
  | unknownSwitch (name : String)
  | unexpectedValue (name : String)
  | missingValue (name : String)
  | missingArgument
  | extraArgument
  | missingSwitch (name : String)
  | notWhole (text : String)
  | unusablePath (text : String)
  | missingCommand
  | unknownCommand (name : String)
  deriving DecidableEq, Repr

namespace UsageError

def message : UsageError → String
  | unknownSwitch name => s!"No such option: {name}"
  | unexpectedValue name => s!"Option '--{name}' does not take a value."
  | missingValue name => s!"Option '--{name}' requires an argument."
  | missingArgument => "Missing argument."
  | extraArgument => "Got an unexpected extra argument."
  | missingSwitch name => s!"Missing option '--{name}'."
  | notWhole text => s!"'{text}' is not a valid integer."
  | unusablePath text => s!"'{text}' is not a valid path."
  | missingCommand => "Missing command."
  | unknownCommand name => s!"No such command '{name}'."

end UsageError

/-- A command line that has been read: its arguments, and its switches with their values, the
    latest first. -/
structure ParsedLine where
  arguments : List String
  given : List (String × String)
  deriving DecidableEq, Repr

namespace ParsedLine

/-- Nothing read yet. -/
def empty : ParsedLine := ⟨[], []⟩

/-- Add a switch with its value. -/
def give (p : ParsedLine) (s : Switch) (value : String) : ParsedLine :=
  { p with given := (s.name, value) :: p.given }

/-- Add arguments. -/
def addArguments (p : ParsedLine) (words : List String) : ParsedLine :=
  { p with arguments := p.arguments ++ words }

/-- Whether a switch is given. -/
def has (p : ParsedLine) (name : String) : Bool := p.given.any fun g => g.1 == name

/-- The value of a switch, the last one if it is given several times. -/
def value? (p : ParsedLine) (name : String) : Option String := p.given.lookup name

end ParsedLine

namespace Usage

/-- Read a word of letters behind a dash. What is left over is a switch that waits for its value
    in the next word. -/
def readLetters (switches : List Switch) (p : ParsedLine) :
    List Char → Except UsageError (ParsedLine × Option Switch)
  | [] => .ok (p, none)
  | c :: r =>
    match switches.find? fun s => s.letter == some c with
    | none => .error (.unknownSwitch (String.ofList ['-', c]))
    | some s =>
      if s.takesValue then
        if r.isEmpty then .ok (p, some s) else .ok (p.give s (String.ofList r), none)
      else readLetters switches (p.give s "") r

/-- Read a word behind two dashes. -/
def readName (switches : List Switch) (p : ParsedLine) (word : List Char) :
    Except UsageError (ParsedLine × Option Switch) :=
  let name := word.takeWhile (· != '=')
  let value := (word.dropWhile (· != '=')).tail?.map String.ofList
  match switches.find? fun s => s.name.toList == name with
  | none => .error (.unknownSwitch ("--" ++ String.ofList name))
  | some s =>
    match s.takesValue, value with
    | true, none => .ok (p, some s)
    | true, some v => .ok (p.give s v, none)
    | false, none => .ok (p.give s "", none)
    | false, some _ => .error (.unexpectedValue s.name)

/-- Read the words of a command line, where `waiting` is a switch whose value comes next. If
    switches may not be `mixed` with arguments, the first argument ends them. -/
def readFrom (mixed : Bool) (switches : List Switch) (p : ParsedLine) (waiting : Option Switch) :
    List String → Except UsageError ParsedLine
  | [] =>
    match waiting with
    | some s => .error (.missingValue s.name)
    | none => .ok p
  | word :: rest =>
    match waiting with
    | some s => readFrom mixed switches (p.give s word) none rest
    | none =>
      match word.toList with
      | ['-', '-'] => .ok (p.addArguments rest)
      | '-' :: '-' :: r =>
        match readName switches p r with
        | .error e => .error e
        | .ok (p, waiting) => readFrom mixed switches p waiting rest
      | '-' :: c :: r =>
        match readLetters switches p (c :: r) with
        | .error e => .error e
        | .ok (p, waiting) => readFrom mixed switches p waiting rest
      | _ =>
        if mixed then readFrom mixed switches (p.addArguments [word]) none rest
        else .ok (p.addArguments (word :: rest))

/-- Read a command line. -/
def read (mixed : Bool) (switches : List Switch) (words : List String) :
    Except UsageError ParsedLine :=
  readFrom mixed (.help :: switches) .empty none words

end Usage

end FormEdit
