import FormEdit.Command.Outside
import FormEdit.Command.Structure

set_option autoImplicit false

/-! # Running commands by name

A command is looked up by its name and run. Whatever goes wrong in it is answered with an error,
so a command that is found never fails. -/

namespace FormEdit.Command

/-- Run a command. -/
def run (c : Command) (ps : Parameters) : Action Response :=
  match c with
  | check => runCheck ps
  | locate => runLocate ps
  | wrap => runWrap ps
  | format => runFormat ps
  | eval => runEval ps
  | discover => runDiscover ps

/-- The error with which a command answers that failed. -/
def failed (c : Command) (failure : Failure) : CommandError :=
  ⟨"command_failed", "Failed to handle command",
    [("command", .text c.name), ("details", .text failure.message)]⟩

/-- The error for a name that no command has. -/
def unknown (name : Value) : CommandError :=
  ⟨"unknown_command", s!"Unknown command: {name.display}",
    [("command", name), ("available", .list (all.map fun c => .text c.name))]⟩

mutual

/-- Whether a value can be looked up by. -/
def isLookupKey : Value → Bool
  | .list _ | .dict _ => false
  | .tuple items => areLookupKeys items
  | _ => true

def areLookupKeys : List Value → Bool
  | [] => true
  | v :: r => isLookupKey v && areLookupKeys r

end

/-- Run the command with a name, which is a value of any kind. -/
def handle (name : Value) (ps : Parameters) : Action Response := do
  if !isLookupKey name then throw (.wrongKind s!"unhashable type: '{name.kindName}'")
  match name with
  | .text s =>
    match ofName? s with
    | some c => tryCatch (c.run ps) fun failure => return .error (failed c failure)
    | none => return .error (unknown name)
  | name => return .error (unknown name)

end FormEdit.Command
