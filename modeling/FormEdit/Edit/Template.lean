import FormEdit.Text.Occurrence

set_option autoImplicit false

/-! # Templates

A template is text with a placeholder, which marks where a form goes. Substitution is literal and
at one place: a placeholder inside the form is not touched, and no escape is known. -/

namespace FormEdit

/-- Text with a placeholder. -/
structure Template where
  text : List Char
  placeholder : List Char
  deriving DecidableEq, Repr

namespace Template

/-- The placeholder used when none is chosen. -/
def defaultPlaceholder : String := "%s"

/-- How often the placeholder occurs. -/
def markerCount (t : Template) : Nat := occurrences t.placeholder t.text

/-- Whether a form can go into exactly one place. -/
def isValid (t : Template) : Bool := t.markerCount == 1

/-- The text with a form in the place of the first placeholder, or behind it when it has none. An
    empty placeholder has no place. -/
def render (t : Template) (form : List Char) : Option (List Char) :=
  if t.placeholder.isEmpty then none
  else
    match cutAt t.placeholder t.text with
    | some (head, tail) => some (head ++ (form ++ tail))
    | none => some (t.text ++ form)

end Template

end FormEdit
