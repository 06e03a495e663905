import FormEdit.Value.Display

set_option autoImplicit false

/-! # Reports of failure

An operation that can fail gives a value or a report: the kind of failure, its wording, and what
else is known of it in named fields. -/

namespace FormEdit

/-- A failure as it is reported. -/
structure Report where
  kind : String
  message : String
  context : List (String × Value)
  deriving Inhabited

namespace Report

/-- The report as a dictionary. -/
def toValue (r : Report) : Value :=
  .ofFields (("kind", .text r.kind) :: ("message", .text r.message) :: r.context)

end Report

/-! ## Outcomes of any kind -/

/-- An error of any kind: the kind it names, if it does, and its wording. -/
structure ErrorValue where
  kind : Value
  message : String

namespace ErrorValue

/-- The error that a value stands for. A dictionary names its kind and wording, nothing is no
    error, and any other value is its own wording. -/
def ofValue? : Value → Option ErrorValue
  | .null => none
  | .dict entries =>
    let message := match Value.lookup "message" entries with
      | some m => m.display
      | none => (Value.dict entries).display
    some ⟨(Value.lookup "kind" entries).getD .null, message⟩
  | v => some ⟨.null, v.display⟩

end ErrorValue

/-- What an operation of any kind came to. -/
inductive Outcome where
  | ok (value : Value)
  | err (error : ErrorValue)

namespace Outcome

def isOk : Outcome → Bool
  | ok _ => true
  | err _ => false

/-- The kind of error, nothing for a success. -/
def kind : Outcome → Value
  | ok _ => .null
  | err e => e.kind

/-- The value, or `default` in the place of an error. -/
def valueOr (default : Value) : Outcome → Value
  | ok v => v
  | err _ => default

/-- The value, or the wording of the error. -/
def unwrap : Outcome → Except String Value
  | ok v => .ok v
  | err e => .error e.message

end Outcome

end FormEdit
