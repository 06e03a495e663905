import FormEdit.Command.Basic
import FormEdit.Formatter

set_option autoImplicit false

/-! # Commands that use programs and servers outside

Formatting gives code to a formatter and writes the file back when it has changed; line ends alone
are no change. What a formatter prints is read, and so holds no surrogates. Evaluating gives code to
a server, and discovering finds servers. -/

namespace FormEdit.Command

/-- Formatted text with the line ends of the text that was given: when only that has carriage
    returns, every line end gets one. -/
def keepLineEnds (given formatted : List Char) : List Char :=
  if containsText ['\r', '\n'] given && !containsText ['\r', '\n'] formatted then
    withCarriageReturns formatted
  else formatted

/-- Format a source. -/
def runFormat (ps : Parameters) : Action Response := do
  match ← findSource ps with
  | .error e => return .error e
  | .ok source =>
    let formatting ← Formatting.create none none
    match ← formatting.format source.text with
    | .error e => return .error ⟨FormatError.kindName, e.message, []⟩
    | .ok output =>
      let given := source.text.display.toList
      let formatted := keepLineEnds given output.toList
      let changed := formatted != given
      let text := String.ofList formatted
      if source.name != inlineName && changed then
        match ← Files.write [] (.text source.name) (.text text) with
        | .error e => return .error (.ofFile e)
        | .ok _ => return .ok (.formatted text changed source.name)
      else return .ok (.formatted text changed source.name)

/-- Evaluate code on a server. -/
def runEval (ps : Parameters) : Action Response := do
  let code := ps.get "code"
  let port ← Action.ofExcept (wholeParameter (ps.get "port"))
  match code.isNull, port with
  | false, some port =>
    let host ← if (ps.get "host").truthy then pure (ps.get "host")
      else (fun s => Value.text s.host) <$> Settings.current
    let patience ← Action.ofExcept (wholeParameter (ps.get "timeout"))
    match ← evalCode code (.int port) host (patience.elim .null .int) with
    | .error e => return .error ⟨e.kind, e.message, [("host", host), ("port", .int port)]⟩
    | .ok output => return .ok (.evaluated output host port)
  | _, _ => return .error (.missing "Requires 'code' and 'port'")

/-- Find servers. -/
def runDiscover (ps : Parameters) : Action Response := do
  match ← discoverServers (ps.get "directory") (ps.get "host") with
  | .error e => return .error ⟨e.kind, e.message, []⟩
  | .ok servers => return .ok (.discovered servers)

end FormEdit.Command
