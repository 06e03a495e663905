import FormEdit.Settings.Toml
import FormEdit.Text.Utf8
import FormEdit.Value.Whole
import FormEdit.Workspace.Basic

set_option autoImplicit false

/-! # Reading the settings

Each setting is the variable of the environment if there is one, else the value under its key in
the settings file, else its default. The settings file is the first that is there: the one that a
variable names, the one in the working folder, or the one in the home folder. What stands for no
number gives way to the default where a number is wanted; infinity, and a number that is too long to
be printed where text is wanted, are failures. -/

namespace FormEdit

namespace Settings

/-- The home folder, where the last settings file and the log files are. -/
def homeFolder : Action Path := do
  match (← get).home? with
  | some home => return home
  | none => throw .noHome

/-- Where a settings file may be, in the order of preference. -/
def candidates (w : Workspace) (home : Path) : List Path :=
  let chosen :=
    match w.environment? "BASIC_TOOLS_CONFIG" with
    | some s => if s.isEmpty then [] else [Path.ofText s]
    | none => []
  chosen ++ [.ofText "basic-tools.toml", home.join [".config", "basic-tools", "config.toml"]]

/-- The table that a settings file holds. -/
def readFile (p : Path) (content : List UInt8) : Except Failure Toml.Table :=
  match Utf8.decode content with
  | .error e => .error (.badValue e.message)
  | .ok t =>
    match Toml.read t with
    | .error .malformed => .error (.settings s!"Invalid config file {p.text}")
    | .error fault => .error (.badValue (fault.message t))
    | .ok entries => .ok entries

/-- The table of the first settings file that is there. -/
def file : Action (Option Toml.Table) := do
  let home ← homeFolder
  let w ← get
  match (candidates w home).find? fun p => (w.tree.find? p).isSome with
  | none => return none
  | some p =>
    match w.tree.content? p with
    | none => throw (.tree (.isFolder p.text))
    | some content =>
      match readFile p content with
      | .ok entries => return some entries
      | .error e => throw e

/-- The names in a key, which are parted by points. -/
def keyNames (key : String) : List String := (pieces '.' key.toList).map String.ofList

/-- What stands in the settings file under a key, if there is a file and it has the key. -/
def fileItem? (key : String) : Action (Option Toml.Item) := do
  return (← file).bind fun entries => Toml.Item.at? (keyNames key) (.table entries)

/-- What is chosen for a setting: by its variable, in the settings file, or by default. -/
def chosen (name key : String) (default : Toml.Item) : Action Toml.Item := do
  match (← get).environment? name with
  | some s => return .text s
  | none => return (← fileItem? key).getD default

/-- A setting that is a number. -/
def number (name key : String) (default : Int) : Action Int := do
  match (← chosen name key (.int default)).whole with
  | .ok n => return n
  | .error .infinite => throw (.overflow WholeError.infinite.message)
  | .error _ => return default

/-- A setting that is text. -/
def text (name key : String) (default : String) : Action String := do
  match (← chosen name key (.text default)).display? with
  | some s => return s
  | none => throw (.badValue Numeral.unprintableMessage)

/-! ## The single settings -/

def readReadLimit : Action Int := number "BASIC_TOOLS_READ_LIMIT" "files.read_limit" 2000

def readGlobLimit : Action Int :=
  number "BASIC_TOOLS_GLOB_MAX_RESULTS" "files.glob_max_results" 1000

def readGrepLimit : Action Int :=
  number "BASIC_TOOLS_GREP_MAX_RESULTS" "files.grep_max_results" 100

def readHost : Action String := text "BASIC_TOOLS_NREPL_HOST" "nrepl.host" "localhost"

def readEvalTimeout : Action Int :=
  number "BASIC_TOOLS_NREPL_TIMEOUT_MS" "nrepl.timeout_ms" 120000

def readFormatTimeout : Action Int :=
  number "BASIC_TOOLS_FORMATTER_TIMEOUT" "formatter.timeout_s" 30

def readLogFolder : Action String := do
  let home ← homeFolder
  text "BASIC_TOOLS_LOG_DIR" "logging.dir" (home.join [".basic-tools-mcp", "logs"]).text

def readPlaceholder : Action String :=
  text "BASIC_TOOLS_PLACEHOLDER" "structural.placeholder" Template.defaultPlaceholder

/-- What is wrong with a placeholder that is empty. -/
def emptyPlaceholder : Failure := .settings "Template placeholder must be a non-empty string"

/-- Read all settings. -/
def load : Action Settings := do
  let readLimit ← readReadLimit
  let globLimit ← readGlobLimit
  let grepLimit ← readGrepLimit
  let host ← readHost
  let evalTimeout ← readEvalTimeout
  let formatTimeout ← readFormatTimeout
  let logFolder ← readLogFolder
  let placeholder ← readPlaceholder
  if placeholder.isEmpty then throw emptyPlaceholder
  return {
    readLimit, globLimit, grepLimit, host, evalTimeout, formatTimeout, logFolder, placeholder }

/-- The settings. They are read once and kept. -/
def current : Action Settings := do
  match (← get).settings with
  | some s => return s
  | none =>
    let s ← load
    modify fun w => { w with settings := some s }
    return s

/-- Forget the settings that were read. -/
def forget : Action Unit := modify fun w => { w with settings := none }

/-! ## Settings by name -/

/-- The value under a key of the settings file, or `default` when there is none. A key is looked
    at when there is a file, and only text is one. -/
def fileValue (key default : Value) : Action Value := do
  match ← file, key with
  | none, _ => return default
  | some entries, .text key =>
    return ((Toml.Item.at? (keyNames key) (.table entries)).map Toml.Item.value).getD default
  | some _, .bytes _ => throw (.wrongKind "a bytes-like object is required, not 'str'")
  | some _, v => throw (.noMember s!"'{v.kindName}' object has no attribute 'split'")

/-- The settings under their names. -/
def fields (s : Settings) : List (String × Value) :=
  [("read_default_limit", .int s.readLimit), ("glob_max_results", .int s.globLimit),
   ("grep_max_results", .int s.grepLimit), ("nrepl_host", .text s.host),
   ("nrepl_timeout_ms", .int s.evalTimeout), ("formatter_timeout_s", .int s.formatTimeout),
   ("log_dir", .text s.logFolder), ("placeholder", .text s.placeholder)]

/-- How each setting is read, under its name. -/
def readers : List (String × Action Value) :=
  [("read_default_limit", .int <$> readReadLimit), ("glob_max_results", .int <$> readGlobLimit),
   ("grep_max_results", .int <$> readGrepLimit), ("nrepl_host", .text <$> readHost),
   ("nrepl_timeout_ms", .int <$> readEvalTimeout),
   ("formatter_timeout_s", .int <$> readFormatTimeout), ("log_dir", .text <$> readLogFolder),
   ("placeholder", .text <$> readPlaceholder)]

/-- The settings under their names, with some of them given as values of any kind. What is given
    is not read. -/
def loadWith (given : List (String × Value)) : Action (List (String × Value)) := do
  for (name, _) in given do
    if (field? name (readers.map fun r => (r.1, Value.null))).isNone then
      throw (.wrongKind ("unexpected keyword argument '" ++ name ++ "'"))
  let fields ← readers.mapM fun (name, read) => do
    match field? name given with
    | some v => return (name, v)
    | none => return (name, ← read)
  if !(fieldOrNull "placeholder" fields).truthy then throw emptyPlaceholder
  return fields

end Settings

end FormEdit
