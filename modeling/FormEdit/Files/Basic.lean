import FormEdit.Report
import FormEdit.Settings.Load
import FormEdit.Text.Lines
import FormEdit.Value.Order

set_option autoImplicit false

/-! # Reading and writing files

A file is read as numbered lines or as its whole text, and written whole. Files that are not there
and files that are no text are reported, as is what the tree refuses. What is asked for are values
of any kind, and one of the wrong kind is a misuse that shows where the value is first used. -/

namespace FormEdit

/-- What a file operation fails at. -/
inductive FileErrorKind where
  | notFound
  | readFailure
  | writeFailure
  deriving DecidableEq, Repr

namespace FileErrorKind

def name : FileErrorKind → String
  | notFound => "not-found"
  | readFailure => "read-failure"
  | writeFailure => "write-failure"

end FileErrorKind

/-- A failed file operation and the path that was asked for, as it was given. -/
structure FileError where
  kind : FileErrorKind
  message : String
  path : Value

namespace FileError

def report (e : FileError) : Report := ⟨e.kind.name, e.message, [("path", e.path)]⟩

/-- The failure to find a file. -/
def noFile (path : String) : FileError := ⟨.notFound, s!"File not found: {path}", .text path⟩

/-- The failure to make text of a file. -/
def noText (path : String) (fault : Utf8.Fault) : FileError :=
  ⟨.readFailure, s!"Failed to read {path}: {fault.message}", .text path⟩

end FileError

namespace Files

/-- A number set right in six places. -/
def numberText (n : Nat) : List Char :=
  let ds := Nat.toDigits 10 n
  List.replicate (6 - ds.length) ' ' ++ ds

/-- Lines with their numbers, of which the first has `n` lines before it. -/
def numberLines (n : Nat) : List (List Char) → List (List Char)
  | [] => []
  | line :: r => (numberText (n + 1) ++ '→' :: line) :: numberLines (n + 1) r

/-- Texts with line feeds between them. -/
def joinLines (lines : List (List Char)) : List Char := ['\n'].intercalate lines

/-- A window of the lines of a text, with their numbers: `limit` lines behind the first `offset`,
    or all but the last ones when that does not reach over the beginning. -/
def numberedLines (t : List Char) (offset : Nat) (limit : Int) : List Char :=
  joinLines (numberLines offset (slice (splitLines t) offset (offset + limit)))

/-- The text of a file as it stands, given what it contains. -/
def textOf (path : String) (content : Option (List UInt8)) : Except FileError (List Char) :=
  match content with
  | none => .error (.noFile path)
  | some bytes =>
    match Utf8.decode bytes with
    | .ok t => .ok t
    | .error fault => .error (.noText path fault)

/-- Read a file as it stands. -/
def readText (path : String) : Action (Except FileError (List Char)) := do
  return textOf path ((← get).tree.content? (.ofText path))

/-- The number of lines that a read leaves out, when a value asks for it. What is below zero leaves
    out none, and a fraction stays one. -/
def offsetOf (v : Value) : Except Failure Value :=
  if !v.truthy then .ok (.int 0)
  else
    match v.magnitude? with
    | some m =>
      if !(Magnitude.quotient 0 1).less m then .ok (.int 0)
      else .ok (match v with | .bool _ => .int 1 | v => v)
    | none =>
      .error (.wrongKind s!"'>' not supported between instances of '{v.kindName}' and 'int'")

/-- The window that an offset and a limit ask for. Only whole numbers make one, and one that is
    too large for a fraction cannot be added to one. -/
def windowOf : Value → Value → Except Failure (Nat × Int)
  | .int offset, .float _ => .error (tooLarge offset)
  | .float _, .int limit => .error (tooLarge limit)
  | offset, limit => do return ((← offset.index).toNat, ← limit.index)
where
  /-- What adding a whole number and a fraction fails at. -/
  tooLarge (n : Int) : Failure :=
    if (floatOfInt? n).isNone then .overflow "int too large to convert to float"
    else .wrongKind Value.indexMessage

/-- Read a window of the lines of a file. Without a limit the settings have one. -/
def read (path offset limit : Value) : Action (Except FileError (List Char)) := do
  let offset ← Action.ofExcept (offsetOf offset)
  let limit ← if limit.isNull then (fun s => .int s.readLimit) <$> Settings.current else pure limit
  match ← readText (← Action.ofExcept path.pathText) with
  | .error e => return .error e
  | .ok t =>
    let (offset, limit) ← Action.ofExcept (windowOf offset limit)
    return .ok (numberedLines (unifyNewlines t) offset limit)

/-- The bytes that a value puts into a file. Only text has any, and only text without surrogates. -/
def bytesToWrite (u : Utf8.StandIns) : Value → Except Failure (List UInt8)
  | .text s => (Utf8.write u s.toList).mapError .unwritable
  | v => .error (.wrongKind s!"write() argument must be str, not {v.kindName}")

/-- Write a file, making the folders that it needs. What cannot be written is found out when the
    file is open already, and leaves it empty. -/
def write (u : Utf8.StandIns) (path content : Value) : Action (Except FileError String) := do
  let spelling ← Action.ofExcept path.pathText
  let w ← get
  let bytes := bytesToWrite u content
  let (tree, fault) := w.tree.write (.ofText spelling) (bytes.toOption.getD [])
  set { w with tree }
  match fault, bytes with
  | some .unusableName, _ => throw (.badValue FileFault.unusableName.message)
  | some fault, _ =>
    return .error ⟨.writeFailure, s!"Failed to write {spelling}: {fault.message}", path⟩
  | none, .error failure => throw failure
  | none, .ok _ => return .ok s!"File written: {spelling}"

end Files

end FormEdit
