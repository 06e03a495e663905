import FormEdit.Settings.Load

set_option autoImplicit false

/-! # Deciding where messages go

Messages go to the console unless the caller or the environment silences it, and to a log file
when the caller or the environment asks for one. Once decided, it stays decided. -/

namespace FormEdit

/-- The name of the log file. -/
def logFileName : String := "basic-tools-mcp.log"

namespace Logging

/-- The weight of a level that is given by name or as a number. -/
def weightOf : Value → Except Failure Nat
  | .text s =>
    match levelWeight? s with
    | some n => .ok n
    | none => .error (.badValue s!"Level '{s}' does not exist")
  | .int n => if n < 0 then .error (.badValue "Invalid level value") else .ok n.toNat
  | .bool b => .ok b.toNat
  | _ => .error (.wrongKind "Invalid level")

/-- A choice that the environment makes when the caller does not. -/
def chosenOr (name : String) : Value → Action Bool
  | .null => Action.isSwitchedOn name
  | v => pure v.truthy

/-- Make the folder of the log file, and the file if it is not there. -/
def openFile (folder : Path) : Action Unit := do
  let w ← get
  let file := folder.child logFileName
  let (tree, fault) := w.tree.write file ((w.tree.content? file).getD [])
  set { w with tree }
  match fault with
  | none => return ()
  | some fault => throw (.tree fault)

/-- Decide where messages go, unless that is decided. -/
def setup (level silenced file : Value) : Action Unit := do
  if (← get).logging.configured then return ()
  modify fun w => { w with logging := { w.logging with configured := true, console := none, toFile := false } }
  if !(← chosenOr "BASIC_TOOLS_MACHINE_MODE" silenced) then
    match weightOf level with
    | .error failure => throw failure
    | .ok weight => modify fun w => { w with logging := { w.logging with console := some weight } }
  if ← chosenOr "BASIC_TOOLS_FILE_LOGGING" file then
    let settings ← Settings.current
    openFile (.ofText settings.logFolder)
    modify fun w => { w with logging := { w.logging with toFile := true } }

/-- Send a message of a level to where messages go. The answer says whether the console has taken
    it. A level is looked at only when messages go anywhere. -/
def log (level : Value) (message : String) : Action Bool := do
  let w ← get
  if !w.logging.goesAnywhere then return false
  let weight ← Action.ofExcept (weightOf level)
  let (onConsole, logging) := w.logging.send weight message
  set { w with logging }
  return onConsole

end Logging

end FormEdit
