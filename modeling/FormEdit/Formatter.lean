import FormEdit.Document.Basic
import FormEdit.Report
import FormEdit.Settings.Load

set_option autoImplicit false

/-! # Formatting with a program outside

A formatter reads code and writes it formatted. The first one that is there is used, and code that
is not well formed is not given to it. -/

namespace FormEdit

/-- A formatter: its name, its program and the arguments it is run with. -/
structure Formatter where
  name : String
  command : String
  arguments : List String
  deriving DecidableEq, Repr

/-- A failed formatting, and the formatter that was run, if one was. -/
structure FormatError where
  message : String
  formatter : Option String
  deriving DecidableEq, Repr

namespace FormatError

def kindName : String := "format-failed"

def report (e : FormatError) : Report :=
  ⟨kindName, e.message, (e.formatter.map fun f => ("formatter", Value.text f)).toList⟩

end FormatError

/-- What formatting is done with: the formatters in order of preference, and the seconds that one
    is given. -/
structure Formatting where
  formatters : List Formatter
  timeout : Value

namespace Formatting

/-- The formatters that are known. -/
def knownFormatters : List Formatter := [⟨"cljfmt", "cljfmt", ["fix", "-"]⟩, ⟨"zprint", "zprint", []⟩]

/-- Formatting with the known formatters unless others are given, and with the time that the
    settings allow unless another is given. -/
def create (formatters : Option (List Formatter)) (timeout : Option Value) : Action Formatting := do
  let formatters := formatters.getD knownFormatters
  match timeout with
  | some timeout => return ⟨formatters, timeout⟩
  | none => return ⟨formatters, .int (← Settings.current).formatTimeout⟩

/-- The first formatter that is there. -/
def find (f : Formatting) : Action (Option Formatter) := do
  let w ← get
  return f.formatters.find? fun x => w.programs.found.contains x.command

/-- What the end of a formatter's run comes to. -/
def result (f : Formatting) (formatter : Formatter) : RunEnd → Except FormatError String
  | .timedOut =>
    .error ⟨s!"Format failed: timeout after {f.timeout.display}s", some formatter.command⟩
  | .refused reason => .error ⟨s!"Format failed: {reason}", some formatter.command⟩
  | .finished code output errors =>
    if code = 0 then .ok output
    else
      let said := if errors.isEmpty then output else errors
      .error ⟨s!"Format failed: {String.ofList (strip said.toList)}", some formatter.command⟩

/-- Format code. Code that is no text is not well formed. -/
def format (f : Formatting) (code : Value) : Action (Except FormatError String) := do
  match code with
  | .text s =>
    if !isBalanced s.toList then
      return .error ⟨"Code has unbalanced delimiters; refusing to format", none⟩
    match ← f.find with
    | none =>
      let names := String.intercalate ", " (f.formatters.map (·.name))
      return .error ⟨s!"No Clojure formatter found in PATH (tried: {names})", none⟩
    | some formatter =>
      let outcome ← Action.runProgram ⟨(formatter.command :: formatter.arguments).map .text, some s, f.timeout⟩
      return f.result formatter outcome
  | _ => return .error ⟨"Code has unbalanced delimiters; refusing to format", none⟩

end Formatting

end FormEdit
