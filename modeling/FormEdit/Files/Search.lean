import FormEdit.Files.Basic

set_option autoImplicit false

/-! # Finding files and lines

Files are found by patterns of their paths, and lines by a searcher that runs outside. Both give
one result a line, in order, and no more than the settings or the caller allow. -/

namespace FormEdit.Files

/-- What is said when nothing is found. -/
def noMatches : String := "No matches found"

/-- Results one a line, no more than a limit; a negative limit leaves out the last ones. -/
def results (lines : List (List Char)) (limit : Int) : String :=
  match slice lines 0 limit with
  | [] => noMatches
  | lines => String.ofList (joinLines lines)

/-- Why no search is made for a pattern: a fault that is reported, or a misuse. -/
inductive PatternRefusal where
  | reported (message : String)
  | misuse (failure : Failure)

namespace PatternRefusal

/-- The refusal of a text that is no pattern. -/
def ofError : PatternError → PatternRefusal
  | .empty => .reported "Unacceptable pattern: ''"
  | .mixedStars => .reported "Invalid pattern: '**' can only be an entire path component"
  | .absolute => .misuse (.unsupported "Non-relative patterns are unsupported")
  | .nowhere => .misuse (.noItem "Pattern names nothing")
  | .nowhereFolder => .misuse (.noMember "Pattern names nothing but folders")

/-- What is said of a row that has a slash where a text would have one. -/
def slashOutsideText : Failure := .noMember "A slash in what is no text"

/-- The misuse of a value that is no text. A row or a dictionary is looked through for a slash
    before that is found out. -/
def ofKind : Value → Failure
  | .list items | .tuple items =>
    if items.any (·.isText "/") then slashOutsideText else .wrongKind "Pattern is no text"
  | .dict entries =>
    match entries.find? fun e => e.1.same (.int 0) with
    | none => .noKey "0"
    | some first =>
      if first.2.isText "/" || (Value.lookup "/" entries).isSome then slashOutsideText
      else .wrongKind "Pattern is no text"
  | _ => .wrongKind "Pattern is no text"

end PatternRefusal

/-- The pattern that a value writes. -/
def patternOf : Value → Except PatternRefusal PathPattern
  | .text s => (PathPattern.ofText s).mapError .ofError
  | v =>
    if v.truthy then .error (.misuse (PatternRefusal.ofKind v))
    else .error (.reported s!"Unacceptable pattern: {v.display}")

/-- The files and folders below a folder that a pattern covers, in order of their paths. Without a
    folder it is the working folder, and paths are absolute. -/
def glob (pattern path : Value) : Action (Except FileError String) := do
  let w ← get
  let root ← if path.truthy then Path.ofText <$> Action.ofExcept path.pathText else pure w.here
  if !w.tree.isFolder root then
    return .error ⟨.notFound, s!"Directory not found: {root.text}", .text root.text⟩
  match patternOf pattern with
  | .error (.reported message) =>
    return .error ⟨.readFailure, s!"Glob failed: {message}", .text root.text⟩
  | .error (.misuse failure) => throw failure
  | .ok pattern =>
    let found := (w.tree.select root pattern).map Path.text
    let found := found.mergeSort fun a b => !(b < a)
    let settings ← Settings.current
    return .ok (results (found.map String.toList) settings.globLimit)

/-- The arguments with which the searcher runs. -/
def grepArguments (pattern root only : Value) : List Value :=
  ["rg", "--line-number", "--no-heading"].map .text
    ++ (if only.truthy then [.text "--glob", only] else []) ++ [.text "--", pattern, root]

/-- The lines that a search ends with. A code of one says that nothing was found; a greater one is
    a failure. -/
def grepLines (root : Value) : RunEnd → Except FileError (List (List Char))
  | .timedOut => .error ⟨.readFailure, "grep timeout after 60s", root⟩
  | .refused reason => .error ⟨.readFailure, s!"grep failed: {reason}", root⟩
  | .finished code output errors =>
    if 1 < code then
      let message := String.ofList (strip errors.toList)
      .error ⟨.readFailure, if message.isEmpty then s!"rg exited with {code}" else message, root⟩
    else .ok (splitLines output.toList)

/-- The lines that a searcher finds for a pattern, in a folder or in the working folder. A limit
    of the wrong kind shows when there are lines. -/
def grep (pattern path only limit : Value) : Action (Except FileError String) := do
  let root := if path.truthy then path else .text "."
  let limit ← if limit.isNull then (fun s => .int s.grepLimit) <$> Settings.current else pure limit
  if !(← Action.hasProgram "rg") then
    return .error ⟨.readFailure, "ripgrep (rg) not found in PATH", root⟩
  let outcome ← Action.runProgram ⟨grepArguments pattern root only, none, .int 60⟩
  match grepLines root outcome with
  | .error e => return .error e
  | .ok lines => return .ok (results lines (← Action.ofExcept limit.index))

end FormEdit.Files
