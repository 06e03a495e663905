import FormEdit.Text.Occurrence
import FormEdit.Value.Display
import FormEdit.Workspace.Basic

set_option autoImplicit false

/-! # Evaluations

What an evaluation gives comes in responses, each with some of its values, its output, its errors
and the exceptions it met. A response may also say that the evaluation is done. All that a response
holds is shown before this is asked, and what nests too deep to be shown is a failure. -/

namespace FormEdit

/-- What an evaluation has given so far, each kind in the order in which it came. -/
structure Evaluation where
  values : List String
  out : List String
  err : List String
  exceptions : List String
  space : Option String
  deriving DecidableEq, Repr

namespace Evaluation

/-- Nothing has come yet. -/
def empty : Evaluation := ⟨[], [], [], [], none⟩

/-- Pieces of output put together, without the line feeds at the end. -/
def printed (pieces : List String) : String :=
  String.ofList ((String.join pieces).toList.reverse.dropWhile (· = '\n')).reverse

/-- What an evaluation gave as people read it: the output, the errors, a line for each value, and
    the exceptions. -/
def transcript (e : Evaluation) : String :=
  let exceptions :=
    if e.exceptions.isEmpty then [] else ["Exception: " ++ String.intercalate ", " e.exceptions]
  let parts :=
    printed e.out :: printed e.err :: (e.values.map ("=> " ++ ·) ++ exceptions)
  String.intercalate "\n" (parts.filter fun p => !p.isEmpty)

/-- Add what a response holds. -/
def add (e : Evaluation) (response : List (Value × Value)) : Evaluation :=
  let found (name : String) : List String := ((Value.lookup name response).map Value.display).toList
  { values := e.values ++ found "value"
    out := e.out ++ found "out"
    err := e.err ++ found "err"
    exceptions := e.exceptions ++ found "ex"
    space := ((Value.lookup "ns" response).map Value.display).or e.space }

end Evaluation

/-- Whether a response answers the request with a name, or names no request. -/
def answersRequest (name : String) (response : List (Value × Value)) : Bool :=
  match Value.lookup "id" response with
  | none => true
  | some v => v.isNull || v.isText name

/-- Whether a status says that an evaluation is done: it lists the word, has it as a key, or is a
    text in which the word occurs. -/
def statusIsDone : Value → Except Failure Bool
  | .list items | .tuple items => .ok (items.any (·.isText "done"))
  | .text s => .ok (containsText "done".toList s.toList)
  | .dict entries => .ok (Value.lookup "done" entries).isSome
  | .bytes _ => .error (.wrongKind "a bytes-like object is required, not 'str'")
  | v => .error (.wrongKind s!"argument of type '{v.kindName}' is not iterable")

/-- Whether a response says that an evaluation is done. A status of nothing says nothing. -/
def responseIsDone (response : List (Value × Value)) : Except Failure Bool :=
  match Value.lookup "status" response with
  | none => .ok false
  | some status => if status.truthy then statusIsDone status else .ok false

/-- The fields of a response that are shown. -/
def shownFields : List String := ["value", "out", "err", "ex", "ns"]

/-- Whether all that a response holds can be shown with a number of levels. -/
def canShow (levels : Nat) (response : List (Value × Value)) : Bool :=
  shownFields.all fun name => (Value.lookup name response).all (Value.isShowable levels)

/-- What a response says of an evaluation when it is shown with a number of levels: that it is done
    or goes on. -/
def verdictOf (levels : Nat) (response : List (Value × Value)) : Except Failure Bool :=
  if canShow levels response then responseIsDone response else .error .tooDeep

/-- What a run of responses makes of an evaluation: it is done, or goes on. -/
inductive Course where
  | done (e : Evaluation)
  | going (e : Evaluation)
  deriving DecidableEq, Repr

/-- Take in responses in order, up to the one that says that the evaluation is done. Responses to
    other requests are passed over, as are messages that are no dictionaries. -/
def takeResponses (levels : Nat) (request : String) (e : Evaluation) :
    List Value → Except Failure Course
  | [] => .ok (.going e)
  | .dict response :: rest =>
    if answersRequest request response then
      match verdictOf levels response with
      | .error failure => .error failure
      | .ok true => .ok (.done (e.add response))
      | .ok false => takeResponses levels request (e.add response) rest
    else takeResponses levels request e rest
  | _ :: rest => takeResponses levels request e rest

end FormEdit
