import FormEdit.Command.Basic

set_option autoImplicit false

/-! # Commands on the structure of a source

Checking tells the first structural problem, locating finds the form at a line, and wrapping puts
that form into a template, writing the file back unless it is told not to. -/

namespace FormEdit.Command

/-- The structural problem of a source of any kind. Of what is no text, only what is empty or a
    row of texts can be looked at. -/
def problemOf : Value → Except Failure (Option Issue)
  | .text s =>
    match Document.parse s.toList with
    | .ok _ => .ok none
    | .error (.issue i) => .ok (some i)
    | .error e => .error (.noKey e.message)
  | .bytes [] | .list [] | .tuple [] | .dict [] => .ok none
  | .list (.text _ :: _) | .tuple (.text _ :: _) => .ok none
  | .bytes _ => .error (.noMember "'int' object has no attribute 'isspace'")
  | .list (v :: _) | .tuple (v :: _) =>
    .error (.noMember s!"'{v.kindName}' object has no attribute 'isspace'")
  | .dict _ => .error (.noKey "0")
  | v => .error (.wrongKind s!"object of type '{v.kindName}' has no len()")

/-- Check that a source is well formed. -/
def runCheck (ps : Parameters) : Action Response := do
  match ← findSource ps with
  | .error e => return .error e
  | .ok source => return .ok (.checked source.name (← Action.ofExcept (problemOf source.text)))

/-- What is said when no line is given. -/
def noLine : CommandError := .missing "Requires 'line' (positive integer)"

/-- Find the form at a line. -/
def runLocate (ps : Parameters) : Action Response := do
  match ← Action.ofExcept (wholeParameter (ps.get "line")) with
  | none => return .error noLine
  | some line =>
    match ← findSource ps with
    | .error e => return .error e
    | .ok source =>
      match locateValue source.text (.int line) with
      | some form => return .ok (.located source.name line form.startLine form.endLine form.text)
      | none =>
        if !Numeral.printable line then throw (.badValue Numeral.unprintableMessage)
        return .error
          ⟨"no-form", s!"No top-level form found at line {line}", [("target_line", .int line)]⟩

/-- Whether the file that a source came from is to be written. It is unless the parameters say
    otherwise. -/
def isToWrite (ps : Parameters) : Bool :=
  (ps.get "code").isNull && (ps.get "file_path").truthy &&
    ((field? "write" ps).getD (.bool true)).truthy

/-- Wrap the form at a line in a template. -/
def runWrap (ps : Parameters) : Action Response := do
  match ← Action.ofExcept (wholeParameter (ps.get "line")) with
  | none => return .error noLine
  | some line =>
    let template := ps.get "template"
    if !template.truthy then
      return .error (.missing "Requires 'template' containing a placeholder")
    match ← findSource ps with
    | .error e => return .error e
    | .ok source =>
      let settings ← Settings.current
      let argument := TemplateArgument.made template settings.placeholder.toList
      match wrapSourceValue source.text (.int line) argument with
      | .error e => return .error (.ofEdit e line)
      | .ok text =>
        if isToWrite ps then
          let u := (← get).limits.standIns
          match ← Files.write u (.text source.name) (.text (String.ofList text)) with
          | .error e => return .error (.ofFile e)
          | .ok _ => return .ok (.wrapped source.name line text true)
        else return .ok (.wrapped source.name line text false)

end FormEdit.Command
