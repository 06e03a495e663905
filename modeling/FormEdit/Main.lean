import FormEdit.CommandLine.Run

set_option autoImplicit false

/-! # The program

The program reads the files that its words may name, and the settings and port files of the
working folder, runs the command line on them, and writes the files that have changed. It runs no
programs outside and makes no connections, so formatters and servers are not found by it. -/

namespace FormEdit.Program

/-- The variables of the environment that the program looks at. -/
def variableNames : List String :=
  ["HOME", "BASIC_TOOLS_CONFIG", "BASIC_TOOLS_READ_LIMIT", "BASIC_TOOLS_GLOB_MAX_RESULTS",
   "BASIC_TOOLS_GREP_MAX_RESULTS", "BASIC_TOOLS_NREPL_HOST", "BASIC_TOOLS_NREPL_TIMEOUT_MS",
   "BASIC_TOOLS_FORMATTER_TIMEOUT", "BASIC_TOOLS_LOG_DIR", "BASIC_TOOLS_PLACEHOLDER",
   "BASIC_TOOLS_HUMAN_MODE", "BASIC_TOOLS_MACHINE_MODE", "BASIC_TOOLS_FILE_LOGGING"]

/-- The paths that may be read: those that words name, the port files below them and below the
    working folder, and the settings files. -/
def readPaths (w : Workspace) (words : List String) : List Path :=
  let named := words.map Path.ofText
  named ++ ((⟨.here, []⟩ : Path) :: named).flatMap (fun p => portFiles.map p.join)
    ++ (w.home?.map (Settings.candidates w)).getD []

/-- Read a file into the tree, if it is there and inside the working folder. -/
def readInto (t : FileTree) (p : Path) : IO FileTree := do
  if p.anchor ≠ .here || p.names.contains ".." then return t
  try
    let bytes ← IO.FS.readBinFile p.text
    return (t.write p bytes.toList).1
  catch _ => return t

/-- Write the files that differ from what the tree held before. -/
def writeChanges (before after : FileTree) : IO Unit := do
  for (place, bytes) in after.files do
    let p : Path := ⟨.here, place⟩
    if before.content? p ≠ some bytes then
      IO.FS.createDirAll p.parent.text
      IO.FS.writeBinFile p.text ⟨bytes.toArray⟩

/-- The workspace in which the program starts, with no file read. -/
def start : IO Workspace := do
  let mut environment : List (String × String) := []
  for name in variableNames do
    if let some value ← IO.getEnv name then environment := (name, value) :: environment
  let folder := (← IO.getEnv "PWD").getD "."
  return {
    tree := .empty, folder, environment, settings := none, machine := none,
    logging := Logging.silent.reset, programs := .none, network := .closed, requestName := "1",
    limits := .usual }

end FormEdit.Program

open FormEdit in
def main (words : List String) : IO UInt32 := do
  let w ← Program.start
  let mut tree := w.tree
  for p in Program.readPaths w words do
    tree ← Program.readInto tree p
  let (outcome, after) := (runCommandLine words).run.run { w with tree }
  Program.writeChanges tree after.tree
  let ending := match outcome with
    | .ok ending => ending
    | .error failure => .failed failure
  match ending with
  | .finished _ output => IO.print output
  | .helped => IO.println "Structural editing for Clojure source."
  | .misused e => IO.eprintln s!"Error: {e.message}"
  | .failed failure => IO.eprintln failure.message
  return UInt32.ofNat ending.exitCode
