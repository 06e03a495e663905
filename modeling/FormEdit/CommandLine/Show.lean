import FormEdit.Command.Basic
import FormEdit.Console.Output

set_option autoImplicit false

/-! # Results for people

What a command found is shown to people as a line, as source in a panel or as tables. -/

namespace FormEdit

/-- A line of text with tags that names a source, and what is said behind it. -/
def sourceLine (front source back : String) : Action String :=
  Output.text (front.toList ++ Markup.escape source.toList ++ back.toList)

/-- What a command found, for people. -/
def CommandResult.shown : CommandResult → Action String
  | .checked source issue =>
    match issue with
    | some i =>
      sourceLine "[red]Unbalanced[/red] " source
        (": " ++ String.ofList (Markup.escape i.problem.message.toList))
    | none => sourceLine "[green]Balanced[/green] " source ""
  | .located _ _ startLine endLine form => Output.source s!"lines {startLine}-{endLine}".toList form
  | .wrapped source _ text written => do
    let panel ← Output.source (Markup.escape source.toList) text
    if written then return panel ++ (← sourceLine "[green]Wrote[/green] " source "")
    else return panel
  | .formatted text changed _ =>
    Output.source (if changed then "changed" else "unchanged").toList text.toList
  | .evaluated output _ _ => pure (Output.line output.toList)
  | .discovered servers => do
    if servers.isEmpty then Output.text "No nREPL servers found.".toList
    else
      let tables ← servers.mapM fun s =>
        Output.fields (s.fields.map fun f => (.text f.1, f.2)) (.text s!"nREPL {s.host.display}:{s.port}")
      return String.join tables

end FormEdit
