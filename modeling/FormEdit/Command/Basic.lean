import FormEdit.Edit.Wrap
import FormEdit.Files.Basic
import FormEdit.Nrepl.Discovery

set_option autoImplicit false

/-! # Commands

A command takes parameters, which are values of any kind under names, and answers with what it
found or with an error. Both are shown as dictionaries whose fields have a fixed order. -/

namespace FormEdit

/-- The commands. -/
inductive Command where
  | check
  | locate
  | wrap
  | format
  | eval
  | discover
  deriving DecidableEq, Repr

namespace Command

def name : Command → String
  | check => "check"
  | locate => "locate"
  | wrap => "wrap"
  | format => "format"
  | eval => "eval"
  | discover => "discover"

/-- All commands, in order of their names. -/
def all : List Command := [check, discover, eval, format, locate, wrap]

/-- The command with a name. -/
def ofName? (s : String) : Option Command := all.find? fun c => c.name == s

/-- A command is found by its name. -/
theorem ofName?_name (c : Command) : ofName? c.name = some c := by cases c <;> rfl

end Command

/-- The parameters of a command. -/
abbrev Parameters := List (String × Value)

namespace Parameters

/-- The value of a parameter, nothing when it is not given. -/
def get (ps : Parameters) (name : String) : Value := fieldOrNull name ps

end Parameters

/-- An error with which a command answers. -/
structure CommandError where
  kind : String
  message : String
  details : List (String × Value)

namespace CommandError

/-- The failure to give a parameter that is needed. -/
def missing (message : String) : CommandError := ⟨"missing_parameter", message, []⟩

/-- A file error; its path is told unless it is empty. -/
def ofFile (e : FileError) : CommandError :=
  ⟨e.kind.name, e.message, if e.path.truthy then [("path", e.path)] else []⟩

/-- Set a field, in its place if it is there. -/
def setField (name : String) (v : Value) (fields : List (String × Value)) : List (String × Value) :=
  if fields.any fun f => f.1 == name then
    fields.map fun f => if f.1 == name then (name, v) else f
  else fields ++ [(name, v)]

/-- A refused edit at a line. -/
def ofEdit (e : EditError) (line : Int) : CommandError :=
  ⟨e.kindName, e.message, setField "target_line" (.int line) e.report.context⟩

def fields (e : CommandError) : List (String × Value) :=
  [("status", .text "error"), ("error_type", .text e.kind), ("message", .text e.message),
   ("details", .ofFields e.details)]

end CommandError

/-- What a command found. -/
inductive CommandResult where
  | checked (source : String) (issue : Option Issue)
  | located (source : String) (line : Int) (startLine endLine : Int) (form : List Char)
  | wrapped (source : String) (line : Int) (text : List Char) (written : Bool)
  | formatted (text : String) (changed : Bool) (source : String)
  | evaluated (output : String) (host : Value) (port : Int)
  | discovered (servers : List FoundServer)

namespace CommandResult

def fields : CommandResult → List (String × Value)
  | checked source issue =>
    [("has_error", .bool issue.isSome), ("source", .text source),
     ("issue", issue.elim .null fun i => .text i.problem.message),
     ("line", issue.elim .null fun i => .int i.place.line),
     ("column", issue.elim .null fun i => .int i.place.column)]
  | located source line startLine endLine form =>
    [("source", .text source), ("line", .int line), ("start_line", .int startLine),
     ("end_line", .int endLine), ("form", .text (String.ofList form))]
  | wrapped source line text written =>
    [("source", .text source), ("line", .int line), ("text", .text (String.ofList text)),
     ("written", .bool written)]
  | formatted text changed source =>
    [("formatted", .text text), ("changed", .bool changed), ("source", .text source)]
  | evaluated output host port =>
    [("output", .text output), ("host", host), ("port", .int port)]
  | discovered servers =>
    [("ports", .list (servers.map fun s => .ofFields s.fields)), ("count", .int servers.length)]

end CommandResult

/-- With what a command answers. -/
abbrev Response := Except CommandError CommandResult

namespace Response

def fields : Response → List (String × Value)
  | .ok r => r.fields
  | .error e => e.fields

end Response

/-! ## Reading parameters -/

/-- The whole number that a parameter stands for. A number that is whole and digits with blanks
    around them stand for one; a truth value does not. What looks like digits without being a
    numeral is a mistake of the caller. -/
def wholeParameter : Value → Except Failure (Option Int)
  | .int n => .ok (some n)
  | .float x => .ok (Binary.ofFloat x).whole?
  | .text s =>
    let digits := strip s.toList
    if digits.isEmpty || !digits.all isDigitLike then .ok none
    else
      match Numeral.ofText digits with
      | .ok n => .ok (some n)
      | .error e => .error (.badValue (e.message digits))
  | _ => .ok none

/-- A source to work on: its text, which is a value of any kind when it is given as code, and the
    name under which it is reported. -/
structure Source where
  text : Value
  name : String

/-- The name of a source that is given as code. -/
def inlineName : String := "inline"

/-- The source that the parameters give, as code or as a file. -/
def findSource (ps : Parameters) : Action (Except CommandError Source) := do
  let code := ps.get "code"
  let path := ps.get "file_path"
  if !code.isNull then return .ok ⟨code, inlineName⟩
  if !path.truthy then
    return .error (.missing "Provide 'code' (string) or 'file_path'")
  let path ← Action.ofExcept path.pathText
  match ← Files.readText path with
  | .error e => return .error (.ofFile e)
  | .ok t => return .ok ⟨.text (String.ofList t), path⟩

end FormEdit
