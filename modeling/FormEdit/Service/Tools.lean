import FormEdit.Command.Dispatch
import FormEdit.Files.Search
import FormEdit.Service.Argument

set_option autoImplicit false

/-! # Tools of the service

The service offers one tool that runs any command, and four that read, write and search files. A
call that fits the declared parameters is answered with fields, also when what was asked for is
refused; any other failure is one of the call. -/

namespace FormEdit

/-- The tools. -/
inductive Tool where
  | clojure
  | readFile
  | fileWrite
  | globFiles
  | grep
  deriving DecidableEq, Repr

namespace Tool

def name : Tool → String
  | clojure => "clojure"
  | readFile => "read_file"
  | fileWrite => "file_write"
  | globFiles => "glob_files"
  | grep => "grep"

/-- All tools. -/
def all : List Tool := [clojure, readFile, fileWrite, globFiles, grep]

/-- The tool with a name. -/
def ofName? (s : String) : Option Tool := all.find? fun t => t.name == s

/-- A tool is found by its name. -/
theorem ofName?_name (t : Tool) : ofName? t.name = some t := by cases t <;> rfl

/-- The parameters of a tool. -/
def parameters : Tool → List ToolParameter
  | clojure =>
    [.needed "command" .text, .optional "code" .text, .optional "file_path" .text,
     .optional "line" .whole, .optional "template" .text, .optional "write" .flag,
     .optional "port" .whole, .optional "host" .text, .optional "timeout" .whole,
     .optional "directory" .text]
  | readFile => [.needed "path" .text, .withDefault "offset" .whole (.int 0), .optional "limit" .whole]
  | fileWrite => [.needed "file_path" .text, .needed "content" .text]
  | globFiles => [.needed "pattern" .text, .optional "path" .text]
  | grep =>
    [.needed "pattern" .text, .optional "path" .text, .optional "include" .text,
     .optional "max_results" .whole]

/-- The answer to a file operation that gives text. -/
def textAnswer : Except FileError String → List (String × Value)
  | .ok s => [("status", .text "ok"), ("text", .text s)]
  | .error e => (CommandError.ofFile e).fields

/-- Run a tool on arguments that fit its parameters. -/
def run (t : Tool) (ps : Parameters) : Action (List (String × Value)) :=
  match t with
  | clojure =>
    Response.fields <$>
      Command.handle (ps.get "command") (ps.filter fun p => p.1 != "command" && !p.2.isNull)
  | readFile => do
    let found ← Files.read (ps.get "path") (ps.get "offset") (ps.get "limit")
    return textAnswer (found.map String.ofList)
  | fileWrite => do
    let u := (← get).limits.standIns
    textAnswer <$> Files.write u (ps.get "file_path") (ps.get "content")
  | globFiles => textAnswer <$> Files.glob (ps.get "pattern") (ps.get "path")
  | grep =>
    textAnswer <$>
      Files.grep (ps.get "pattern") (ps.get "path") (ps.get "include") (ps.get "max_results")

/-- Call the tool with a name. -/
def call (name : String) (given : Parameters) : Action (Except CallError (List (String × Value))) :=
  match ofName? name with
  | none => return .error (.unknownTool name)
  | some t =>
    match ToolParameter.arguments t.parameters given with
    | .error e => return .error e
    | .ok ps => tryCatch (.ok <$> t.run ps) fun failure => return .error (.failed failure)

end Tool

end FormEdit
