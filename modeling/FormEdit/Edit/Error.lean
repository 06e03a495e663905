import FormEdit.Document.Basic
import FormEdit.Number.Numeral
import FormEdit.Report

set_option autoImplicit false

/-! # Why an edit is refused -/

namespace FormEdit

/-- Why a form does not go into a template. -/
inductive TemplateError where
  | formNotText (kind : String)
  | markerCount (placeholder : List Char) (found : Nat) (template : List Char)
  | unbalanced (error : BuildError) (wrapped : List Char)
  | emptyPlaceholder
  | noSubstitution (reason : String)
  deriving DecidableEq, Repr

namespace TemplateError

def message : TemplateError → String
  | formNotText kind => s!"Form must be a string, got {kind}"
  | markerCount placeholder found _ =>
    s!"Template must contain exactly one '{String.ofList placeholder}' placeholder "
      ++ s!"(found {found})"
  | unbalanced e _ => s!"Wrapped form is not balanced: {e.message}"
  | emptyPlaceholder => "Template substitution failed: empty separator"
  | noSubstitution reason => s!"Template substitution failed: {reason}"

/-- The text that was tried: the template that has no one place, or the text that came of it. -/
def attempted? : TemplateError → Option (List Char)
  | markerCount _ _ template => some template
  | unbalanced _ wrapped => some wrapped
  | _ => none

def report (e : TemplateError) : Report where
  kind := "invalid-template"
  message := e.message
  context :=
    match e.attempted? with
    | some t => [("attempted_text", .text (String.ofList t))]
    | none => []

end TemplateError

/-- Why a form of a source is not wrapped. -/
inductive EditError where
  | sourceNotText (kind : String)
  | invalidSource (error : BuildError)
  | unprintableLine
  | noForm (line : Value)
  | templateRefused (startLine : Int) (cause : TemplateError)
  | invalidFragment (error : BuildError)
  | notOneForm (found : Nat)
  | invalidResult (error : BuildError)
  | countChanged (before after : Nat)

namespace EditError

/-- The name of the kind of failure. -/
def kindName : EditError → String
  | sourceNotText _ | invalidSource _ | unprintableLine => "parse-failed"
  | noForm _ => "no-form"
  | _ => "insert-failed"

def message : EditError → String
  | sourceNotText kind => s!"Source has invalid syntax: Source must be a string, got {kind}"
  | invalidSource e => s!"Source has invalid syntax: {e.message}"
  | unprintableLine => s!"Source has invalid syntax: {Numeral.unprintableMessage}"
  | noForm line => s!"No top-level form found at line {line.display}"
  | templateRefused startLine _ => s!"Could not wrap form at line {startLine}"
  | invalidFragment e => s!"Wrapped text failed to reparse: {e.message}"
  | notOneForm found => s!"Wrapped text must be exactly one form (found {found})"
  | invalidResult e => s!"Edited source failed to reparse: {e.message}"
  | countChanged before after =>
    s!"Edit changed the number of top-level forms ({before} -> {after})"

/-- The line that was asked for, when it is a number or a truth value. -/
def targetLine? : EditError → Option Value
  | noForm (.int n) => some (.int n)
  | noForm (.bool b) => some (.bool b)
  | _ => none

/-- The failure behind this one. -/
def cause? : EditError → Option TemplateError
  | templateRefused _ cause => some cause
  | _ => none

def report (e : EditError) : Report where
  kind := e.kindName
  message := e.message
  context :=
    (match e.targetLine? with
      | some line => [("target_line", line)]
      | none => []) ++
    (match e.cause? with
      | some cause => [("cause", cause.report.toValue)]
      | none => [])

end EditError

end FormEdit
