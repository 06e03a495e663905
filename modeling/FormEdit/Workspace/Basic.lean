import FormEdit.Settings.Basic
import FormEdit.Text.Utf8
import FormEdit.Value.Display
import FormEdit.Workspace.Logging
import FormEdit.Workspace.Network
import FormEdit.Workspace.Tools
import FormEdit.Workspace.Tree

set_option autoImplicit false

/-! # Workspaces

A workspace is all that the program works on: the files of the working folder, the variables of
the environment, the settings once they are read, how output is shown, where messages go, the
programs outside and the network, with the limits of what it can write and show. An action changes
a workspace and gives a value or fails; what it changed before a failure stays changed. -/

namespace FormEdit

/-- Why an action fails. Settings, connections and the tree of files have faults of their own; the
    rest are misuses by a caller. -/
inductive Failure where
  | settings (message : String)
  | connection (host : Value) (port : Int) (reason : String)
  | bencode (message : String)
  | wrongKind (message : String)
  | badValue (message : String)
  | overflow (message : String)
  | noMember (message : String)
  | noKey (message : String)
  | noItem (message : String)
  | tree (fault : FileFault)
  | unsupported (message : String)
  | badMarkup (message : String)
  | notShowable (message : String)
  | unwritable (x : Utf8.Unwritable)
  | tooDeep
  | noHome

namespace Failure

def message : Failure → String
  | settings m | bencode m | wrongKind m | badValue m | overflow m | noMember m | noKey m
  | noItem m | unsupported m | badMarkup m | notShowable m => m
  | connection host port reason => s!"nREPL {host.display}:{port}: {reason}"
  | tree fault => fault.message
  | unwritable x => x.message
  | tooDeep => "maximum recursion depth exceeded while getting the repr of an object"
  | noHome => "Could not determine home directory."

end Failure

/-- What bounds the program: the characters that stand for surrogates in the texts that it is given,
    chosen among those that no file and no message holds, and the number of levels that it shows of
    a value. -/
structure Limits where
  standIns : Utf8.StandIns
  levels : Nat

/-- The limits of a run that is given no surrogates. -/
def Limits.usual : Limits := ⟨[], 980⟩

/-- What the program works on. The spelling of the working folder is its absolute path, and the
    request name is that of every request it sends. -/
structure Workspace where
  tree : FileTree
  folder : String
  environment : List (String × String)
  settings : Option Settings
  machine : Option Bool
  logging : Logging
  programs : Programs
  network : Network
  requestName : String
  limits : Limits

/-- The spelling of a path that a value is. Only text spells one. -/
def Value.pathText : Value → Except Failure String
  | .text s => .ok s
  | .bytes _ =>
    .error (.wrongKind ("argument should be a str object or an os.PathLike object returning str, "
      ++ "not <class 'bytes'>"))
  | v => .error (.wrongKind s!"expected str, bytes or os.PathLike object, not {v.kindName}")

/-- What is said of a value that is no place in a list. -/
def Value.indexMessage : String := "slice indices must be integers"

/-- The place in a list that a value is. Only whole numbers are one, and truth values with them. -/
def Value.index : Value → Except Failure Int
  | .int n => .ok n
  | .bool b => .ok (if b then 1 else 0)
  | _ => .error (.wrongKind indexMessage)

namespace Workspace

/-- The value of a variable of the environment. -/
def environment? (w : Workspace) (name : String) : Option String := w.environment.lookup name

/-- Set a variable of the environment. -/
def setVariable (w : Workspace) (name value : String) : Workspace :=
  { w with environment := (name, value) :: w.environment.filter fun v => v.1 != name }

/-- Remove a variable of the environment. -/
def unsetVariable (w : Workspace) (name : String) : Workspace :=
  { w with environment := w.environment.filter fun v => v.1 != name }

/-- The path of the working folder. -/
def here (w : Workspace) : Path := ⟨.folder w.folder, []⟩

/-- The home folder of the user. A spelling that begins with a tilde names the home folder by the
    home folder, and so none. -/
def home? (w : Workspace) : Option Path :=
  match w.environment? "HOME" with
  | none => some (.ofText "/root")
  | some spelling =>
    let trimmed := (spelling.toList.reverse.dropWhile (· = '/')).reverse
    if trimmed.head? = some '~' then none
    else some (.ofText (if trimmed.isEmpty then "/" else String.ofList trimmed))

end Workspace

/-- What changes a workspace and gives a value or fails. -/
abbrev Action (α : Type) := ExceptT Failure (StateM Workspace) α

namespace Action

/-- The value of a plain outcome, or its failure. -/
def ofExcept {α : Type} : Except Failure α → Action α
  | .ok v => pure v
  | .error failure => throw failure

/-- Whether a variable of the environment is switched on. -/
def isSwitchedOn (name : String) : Action Bool := do
  let w ← get
  let value := (w.environment? name).getD ""
  return ["1", "true", "yes"].contains (String.ofList (value.toList.map Char.toLower))

/-- Run a program outside. -/
def runProgram (r : ProgramRun) : Action RunEnd := do
  let w ← get
  let (outcome, programs) := w.programs.run r
  set { w with programs }
  return outcome

/-- Whether a program is there to be run. -/
def hasProgram (name : String) : Action Bool := do
  return (← get).programs.found.contains name

end Action

end FormEdit
