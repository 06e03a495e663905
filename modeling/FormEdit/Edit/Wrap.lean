import FormEdit.Edit.Error
import FormEdit.Edit.Locate
import FormEdit.Edit.Template

set_option autoImplicit false

/-! # Wrapping a form

A form is wrapped by putting its text into a template. In a source, the form at a line gives way
to what comes of it, and every other character stays. What would break the source, or change how
many forms stand at its top, is refused. -/

namespace FormEdit

/-- Put a form into a template and see that the result is well formed. -/
def wrapForm (form : List Char) (template : Template) : Except TemplateError (List Char) :=
  if !template.isValid then
    .error (.markerCount template.placeholder template.markerCount template.text)
  else
    match template.render form with
    | none => .error .emptyPlaceholder
    | some wrapped =>
      match Document.parse wrapped with
      | .error e => .error (.unbalanced e wrapped)
      | .ok d => .ok d.text

/-- The failure to find a form at a line. A line with too many digits cannot be named. -/
def EditError.noFormAt (line : Int) : EditError :=
  if Numeral.printable line then .noForm (.int line) else .unprintableLine

/-- Put a text in the place of a located form of a document. -/
def replaceForm (d : Document) (form : LocatedForm) (wrapped : List Char) :
    Except EditError (List Char) :=
  match Document.parse wrapped with
  | .error e => .error (.invalidFragment e)
  | .ok fragment =>
    if fragment.forms.length ≠ 1 then .error (.notOneForm fragment.forms.length)
    else
      let output := (d.splice form.index [] fragment.nodes).text
      match Document.parse output with
      | .error e => .error (.invalidResult e)
      | .ok check =>
        if d.forms.length ≠ check.forms.length then
          .error (.countChanged d.forms.length check.forms.length)
        else .ok output

/-- Wrap the top-level form at a line of a source. -/
def wrapSource (source : List Char) (line : Int) (template : Template) :
    Except EditError (List Char) :=
  if line < 1 then .error (.noFormAt line)
  else
    match Document.parse source with
    | .error e => .error (.invalidSource e)
    | .ok d =>
      match d.locate line with
      | none => .error (.noFormAt line)
      | some form =>
        match wrapForm form.text template with
        | .error e => .error (.templateRefused form.startLine e)
        | .ok wrapped => replaceForm d form wrapped

/-! ## Arguments of any kind -/

/-- A template as a caller gives it: a value to be read as one, or a template whose text is still a
    value. -/
inductive TemplateArgument where
  | plain (value : Value)
  | made (text : Value) (placeholder : List Char)

namespace TemplateArgument

/-- What is said of a template whose text is a value without places. -/
def refusal (text : Value) (placeholder : List Char) : TemplateError :=
  match text with
  | .bytes _ => .noSubstitution "argument should be integer or bytes-like object, not 'str'"
  | .list items | .tuple items =>
    let count := (items.filter fun v => v.isText (String.ofList placeholder)).length
    if count = 1 then .noSubstitution s!"'{text.kindName}' object has no attribute 'partition'"
    else .markerCount placeholder count text.display.toList
  | _ => .noSubstitution s!"'{text.kindName}' object has no attribute 'count'"

/-- The template that an argument stands for. -/
def resolve : TemplateArgument → Except TemplateError Template
  | plain (.text s) => .ok ⟨s.toList, Template.defaultPlaceholder.toList⟩
  | plain v => .error (.noSubstitution s!"Template must be a string, got {v.kindName}")
  | made (.text s) placeholder => .ok ⟨s.toList, placeholder⟩
  | made v placeholder => .error (refusal v placeholder)

end TemplateArgument

/-- Put a form into a template, where both are values of any kind. -/
def wrapFormValue (form : Value) (template : TemplateArgument) :
    Except TemplateError (List Char) :=
  match form with
  | .text s =>
    match template.resolve with
    | .error e => .error e
    | .ok t => wrapForm s.toList t
  | v => .error (.formNotText v.kindName)

/-- Wrap the top-level form at a line of a source, where all three are values of any kind. A
    template that is none is found out only once the form is found. -/
def wrapSourceValue (source line : Value) (template : TemplateArgument) :
    Except EditError (List Char) :=
  match source with
  | .text s =>
    match line with
    | .int n =>
      match template.resolve with
      | .ok t => wrapSource s.toList n t
      | .error e =>
        if n < 1 then .error (.noFormAt n)
        else
          match Document.parse s.toList with
          | .error e => .error (.invalidSource e)
          | .ok d =>
            match d.locate n with
            | none => .error (.noFormAt n)
            | some form => .error (.templateRefused form.startLine e)
    | v => .error (.noForm v)
  | v => .error (.sourceNotText v.kindName)

/-- Wrap a form of a source step by step, each success becoming the next source and each failure
    keeping it. The outcome of each step, and the last source. -/
def wrapChain (source : Value) :
    List (Value × TemplateArgument) → List (Except EditError (List Char)) × Value
  | [] => ([], source)
  | (line, template) :: r =>
    let outcome := wrapSourceValue source line template
    let source := match outcome with
      | .ok t => .text (String.ofList t)
      | .error _ => source
    let (outcomes, last) := wrapChain source r
    (outcome :: outcomes, last)

end FormEdit
