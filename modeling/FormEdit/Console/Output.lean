import FormEdit.Console.Frame
import FormEdit.Console.Markup
import FormEdit.Value.Json
import FormEdit.Workspace.Basic

set_option autoImplicit false

/-! # Output of the program

Output is made for machines, as JSON on one line, unless it is asked to be made for people. Then
it is text on lines of a console, with panels round source and tables of fields. -/

namespace FormEdit

/-- The cells of a console line. -/
def consoleWidth : Nat := 80

/-- Lines with their ends. -/
def endLines (lines : List (List Char)) : String :=
  String.ofList (lines.flatMap fun l => l ++ ['\n'])

/-- Drop a terminal sequence that is begun: its numbers and the letter that ends it. What ends
    without a letter is no sequence. -/
def afterSequence? (t : List Char) : Option (List Char) :=
  match t.dropWhile fun c => c = ';' || c = '?' || c.isDigit with
  | c :: r => if c.isAlpha then some r else none
  | [] => none

/-- Copy a text without its terminal sequences, where `skip` characters are still passed over. -/
def withoutSequencesFrom (skip : Nat) : List Char → List Char
  | [] => []
  | c :: r =>
    match skip with
    | n + 1 => withoutSequencesFrom n r
    | 0 =>
      match c.toNat, r with
      | 27, '[' :: rest =>
        match afterSequence? rest with
        | some after => withoutSequencesFrom (r.length - after.length) r
        | none => c :: withoutSequencesFrom 0 r
      | _, _ => c :: withoutSequencesFrom 0 r

/-- A text without the sequences that set the colours and the cursor of a terminal. -/
def withoutSequences (t : List Char) : List Char := withoutSequencesFrom 0 t

namespace Output

/-- Whether output is for machines. It is, unless the caller or else the environment asks for
    output for people. -/
def isForMachines : Action Bool := do
  match (← get).machine with
  | some b => return b
  | none => return !(← Action.isSwitchedOn "BASIC_TOOLS_HUMAN_MODE")

/-- Make output for machines, for people, or as the environment says. -/
def choose (machine : Option Bool) : Action Unit := modify fun w => { w with machine }

/-- What a text with tags shows. -/
def shown (t : List Char) : Action Styled :=
  match Markup.shown t with
  | .ok t => pure t
  | .error e => throw (.badMarkup e.message)

/-- A plain line. -/
def line (t : List Char) : String := String.ofList (withoutSequences t ++ ['\n'])

/-- A text with tags on console lines. -/
def text (t : List Char) : Action String := do
  return endLines (((← shown t).flow .fold consoleWidth).map Styled.text)

/-- A value as JSON in a layout. -/
def jsonIn (l : JsonLayout) (v : Value) : Action String :=
  match v.jsonText l with
  | .ok t => pure (t ++ "\n")
  | .error .tooLong => throw (.badValue JsonError.tooLong.message)
  | .error e => throw (.wrongKind e.message)

/-- A value as JSON, in the layout that a value asks for or else the reader. -/
def json (v : Value) (dense : Value) : Action String := do
  let dense ← if dense.isNull then isForMachines else pure dense.truthy
  jsonIn (if dense then .dense else .spread) v

/-- Fields as JSON for the reader. -/
def jsonFields (fields : List (String × Value)) : Action String := json (.ofFields fields) .null

/-- Source in a panel. -/
def source (title source : List Char) : Action String := do
  let title ← if title.isEmpty then pure none else (fun s => some s.text) <$> shown title
  return endLines (panel consoleWidth title source)

/-- What a title shows. Only text can be one, and what is empty is none. -/
def titleShown (title : Value) : Action (Option Styled) := do
  if !title.truthy then return none
  match title with
  | .text t => return some (← shown t.toList)
  | v => throw (.notShowable s!"Unable to render {v.display}")

/-- Rows of fields in a table. The texts of keys and values and the title may have tags. -/
def fields (rows : List (Value × Value)) (title : Value) : Action String := do
  let rows ← rows.mapM fun r => do
    return (← shown r.1.display.toList, ← shown r.2.display.toList)
  return endLines (table consoleWidth (← titleShown title) rows)

/-- An error with its kind and details, when there are any. -/
def error (message kind details : Value) : Action String := do
  if ← isForMachines then
    let kind := if kind.truthy then [("error_type", kind)] else []
    let details := if details.truthy then [("details", details)] else []
    jsonFields (("status", .text "error") :: ("message", message) :: (kind ++ details))
  else
    match message with
    | .text message =>
      let label := if kind.truthy then s!" ({kind.display})" else ""
      text ("[red]Error".toList ++ Markup.escape label.toList ++ ": ".toList
        ++ Markup.escape message.toList ++ "[/red]".toList)
    | v => throw (.wrongKind s!"expected string or bytes-like object, got '{v.kindName}'")

end Output

end FormEdit
