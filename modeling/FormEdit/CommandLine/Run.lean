import FormEdit.Command.Dispatch
import FormEdit.CommandLine.Show
import FormEdit.CommandLine.Usage
import FormEdit.Settings.Logging

set_option autoImplicit false

/-! # Running a command line

A command line names a job, which is to run a command, to tell the version or to serve. Its result
is written for machines, or for people if the line or the environment asks for that. A run that
fails, and a check that finds an issue, end with one; a line that cannot be read ends with two. -/

namespace FormEdit

/-- What a command line asks for. -/
inductive Job where
  | version
  | serve
  | command (c : Command)
  deriving DecidableEq, Repr

namespace Job

/-- The job with a name. -/
def ofName? (s : String) : Option Job :=
  if s = "version" then some .version
  else if s = "serve" then some .serve
  else (Command.ofName? s).map .command

/-- The number of arguments that a job needs, and of those that it takes beyond them. -/
def arity : Job → Nat × Nat
  | version | serve => (0, 0)
  | command .check | command .format | command .discover => (0, 1)
  | command .locate => (1, 1)
  | command .wrap => (2, 1)
  | command .eval => (1, 0)

/-- The place of the argument that is a path, if the job takes one. -/
def pathPlace? : Job → Option Nat
  | version | serve | command .eval => none
  | command .check | command .format | command .discover => some 0
  | command .locate => some 1
  | command .wrap => some 2

/-- The switch that gives code in the place of a file. -/
def codeSwitch : Switch := .valued "code" (some 'c')

/-- The switches of a job. -/
def switches : Job → List Switch
  | version | serve => []
  | command .check | command .format | command .locate => [codeSwitch]
  | command .wrap => [codeSwitch, .flag "write" (some 'w')]
  | command .eval =>
    [.valued "port" (some 'p'), .valued "host" none, .valued "timeout" (some 't')]
  | command .discover => [.valued "host" none]

end Job

/-- How a run ends. -/
inductive RunEnding where
  | finished (code : Nat) (output : String)
  | helped
  | misused (e : UsageError)
  | failed (failure : Failure)

namespace RunEnding

/-- The exit code of the program. -/
def exitCode : RunEnding → Nat
  | finished code _ => code
  | helped => 0
  | misused _ => 2
  | failed _ => 1

/-- What the program has written, when that is its own text. -/
def output? : RunEnding → Option String
  | finished _ output => some output
  | failed _ => some ""
  | helped | misused _ => none

end RunEnding

/-! ## Parameters -/

/-- A whole number on a command line, written in ASCII. -/
def wholeWord (s : String) : Except UsageError Int :=
  match Numeral.ofBytes (Utf8.encode s.toList) with
  | .ok n => .ok n
  | .error _ => .error (.notWhole s)

/-- A whole number behind a switch, when it is given. -/
def wholeSwitch? (p : ParsedLine) (name : String) : Except UsageError (Option Int) :=
  (p.value? name).mapM wholeWord

/-- The spelling of a path on a command line. -/
def pathWord (s : String) : Value := .text (Path.ofText s).text

/-- The parameters that give a source, as code or as the file that the argument at a place names. -/
def sourceParameters (p : ParsedLine) (place : Nat) : Option Parameters :=
  match p.value? "code", p.arguments[place]? with
  | some code, _ => some [("code", .text code)]
  | none, some file => some [("file_path", pathWord file)]
  | none, none => none

/-- A text switch as a parameter, unless it is empty or not given. -/
def textParameter (p : ParsedLine) (name : String) : Parameters :=
  match p.value? name with
  | some s => if s.isEmpty then [] else [(name, .text s)]
  | none => []

/-- The parameters that a command line gives to a command; none when there is no source. -/
def commandParameters (c : Command) (p : ParsedLine) :
    Except UsageError (Option Parameters) := do
  let argument (i : Nat) := (p.arguments[i]?).getD ""
  match c with
  | .check | .format => return sourceParameters p 0
  | .locate =>
    let line ← wholeWord (argument 0)
    return (sourceParameters p 1).map fun ps => ("line", .int line) :: ps
  | .wrap =>
    let line ← wholeWord (argument 0)
    return (sourceParameters p 2).map fun ps =>
      [("line", .int line), ("template", .text (argument 1)), ("write", .bool (p.has "write"))] ++ ps
  | .eval =>
    let timeout ← wholeSwitch? p "timeout"
    match ← wholeSwitch? p "port" with
    | none => throw (.missingSwitch "port")
    | some port =>
      return some ([("code", .text (argument 0)), ("port", .int port)] ++ textParameter p "host"
        ++ (timeout.elim [] fun n => [("timeout", .int n)]))
  | .discover =>
    let folder := (p.arguments[0]?).elim [] fun s => [("directory", pathWord s)]
    return some (folder ++ textParameter p "host")

/-! ## Running -/

/-- The name and the version of the program. -/
def programName : String := "basic-tools-mcp"

def programVersion : String := "0.1.0"

/-- Write an error and end with one. -/
def endWithError (e : CommandError) : Action RunEnding :=
  RunEnding.finished 1 <$> Output.error (.text e.message) (.text e.kind) (.ofFields e.details)

/-- Write the answer of a command. -/
def endWithResponse : Response → Action RunEnding
  | .error e => endWithError e
  | .ok r => do
    let output ← if ← Output.isForMachines then Output.jsonFields r.fields else r.shown
    let bad := match r with
      | .checked _ issue => issue.isSome
      | _ => false
    return .finished (if bad then 1 else 0) output

/-- Tell the version. -/
def tellVersion : Action RunEnding := do
  let output ← if ← Output.isForMachines then Output.jsonFields [("version", .text programVersion)]
    else Output.text (programName ++ " [bold]" ++ programVersion ++ "[/bold]").toList
  return .finished 0 output

namespace Job

/-- Whether the arguments of a job are as many as it takes. -/
def checkArity (j : Job) (p : ParsedLine) : Except UsageError Unit :=
  let (needed, further) := j.arity
  if p.arguments.length < needed then .error .missingArgument
  else if needed + further < p.arguments.length then .error .extraArgument
  else .ok ()

/-- Whether the argument that a job takes for a path can be one. -/
def checkPath (j : Job) (p : ParsedLine) : Except UsageError Unit :=
  match j.pathPlace?.bind fun i => p.arguments[i]? with
  | some s => if s.toList.contains '\x00' then .error (.unusablePath s) else .ok ()
  | none => .ok ()

/-- Run a job on the words behind its name. -/
def run (j : Job) (words : List String) : Action RunEnding := do
  match Usage.read true j.switches words with
  | .error e => return .misused e
  | .ok p =>
    if p.has Switch.help.name then return .helped
    if let .error e := j.checkArity p then return .misused e
    if let .error e := j.checkPath p then return .misused e
    match j with
    | version => tellVersion
    | serve => return .finished 0 ""
    | command c =>
      match commandParameters c p with
      | .error e => return .misused e
      | .ok none => endWithError (.missing "Provide a FILE argument or --code")
      | .ok (some ps) => endWithResponse (← Command.handle (.text c.name) ps)

end Job

/-- The switch that asks for output for people. -/
def humanSwitch : Switch := .flag "human" (some 'H')

/-- Read the words in front of the name of a job. -/
def readFront (words : List String) : Except UsageError ParsedLine :=
  Usage.read false [humanSwitch] words

/-- How a run ends that names no job. A name that looks like a switch is read as one, which tells
    only whether help is asked for. -/
def endWithoutJob (name : String) (rest : List String) : RunEnding :=
  let looksLikeSwitch := name.toList.head? == some '-'
  match readFront (name :: rest) with
  | .ok p => if looksLikeSwitch && p.has Switch.help.name then .helped else .misused (.unknownCommand name)
  | .error _ => .misused (.unknownCommand name)

/-- Run a command line. Output for people is asked for in front of the name of the job; without
    it the console stays free of messages. -/
def runCommandLine (words : List String) : Action RunEnding := do
  match readFront words with
  | .error e => return .misused e
  | .ok p =>
    if p.has Switch.help.name then return .helped
    match p.arguments with
    | [] => return .misused .missingCommand
    | name :: rest =>
      match Job.ofName? name with
      | none => return endWithoutJob name rest
      | some j =>
        let act : Action RunEnding := do
          if p.has humanSwitch.name then Output.choose (some false)
          else Logging.setup (.text "INFO") (.bool true) .null
          j.run rest
        tryCatch act fun failure => return .failed failure

end FormEdit
