import FormEdit.Path.Pattern
import FormEdit.Text.Quoted

set_option autoImplicit false

/-! # File trees

A tree holds the files and folders of the working folder. A path leads into the tree name by name:
two points go back to the folder above, and a file on the way is no folder. Outside of the working
folder nothing is known to be there but the folders above it. -/

namespace FormEdit

/-- A place in the tree: the names from the working folder down. -/
abbrev Location := List String

/-- What is at a place. -/
inductive Entry where
  | file (content : List UInt8)
  | folder
  deriving DecidableEq, Repr

/-- The files and folders below the working folder, each with its place. -/
structure FileTree where
  entries : List (Location × Entry)
  deriving DecidableEq, Repr

/-- Where a path leads: to a place in the tree whose folder is there, out of the tree, through a
    folder that is not there, or through a file. -/
inductive Destination where
  | inside (place : Location)
  | outside (isFolder : Bool)
  | missing
  | blocked
  deriving DecidableEq, Repr

/-- Why the tree refuses a change, with the path that is refused. -/
inductive FileFault where
  | occupied (path : String)
  | notFolder (path : String)
  | isFolder (path : String)
  | missing (path : String)
  | unusableName
  deriving DecidableEq, Repr

namespace FileFault

/-- A path as faults quote it. -/
def quotedPath (path : String) : String := String.ofList (quoted path.toList)

def message : FileFault → String
  | occupied path => s!"[Errno 17] File exists: {quotedPath path}"
  | notFolder path => s!"[Errno 20] Not a directory: {quotedPath path}"
  | isFolder path => s!"[Errno 21] Is a directory: {quotedPath path}"
  | missing path => s!"[Errno 2] No such file or directory: {quotedPath path}"
  | unusableName => "embedded null byte"

end FileFault

namespace FileTree

def empty : FileTree := ⟨[]⟩

/-- What is at a place. The working folder is always there. -/
def entry? (t : FileTree) (place : Location) : Option Entry :=
  match place with
  | [] => some .folder
  | place => (t.entries.find? fun e => e.1 == place).map Prod.snd

/-- Put an entry at a place, over what was there. -/
def put (t : FileTree) (place : Location) (entry : Entry) : FileTree :=
  if t.entries.any fun e => e.1 == place then
    ⟨t.entries.map fun e => if e.1 == place then (place, entry) else e⟩
  else ⟨t.entries ++ [(place, entry)]⟩

/-! ## Following paths -/

/-- Follow names from a place. -/
def walk (t : FileTree) (place : Location) : List String → Destination
  | [] => .inside place
  | name :: rest =>
    match t.entry? place with
    | none => .missing
    | some (.file _) => .blocked
    | some .folder =>
      if name = ".." then
        match place with
        | [] => .outside (rest.all (· == ".."))
        | place => t.walk place.dropLast rest
      else t.walk (place ++ [name]) rest

/-- Where a path leads. -/
def follow (t : FileTree) (p : Path) : Destination :=
  match p.anchor with
  | .here | .folder _ => t.walk [] p.names
  | .root | .doubleRoot => .outside (p.names.all (· == ".."))

/-- What a path leads to, if anything is there. -/
def find? (t : FileTree) (p : Path) : Option Entry :=
  if p.isUnusable then none
  else
    match t.follow p with
    | .inside place => t.entry? place
    | .outside true => some .folder
    | _ => none

def isFolder (t : FileTree) (p : Path) : Bool :=
  match t.find? p with
  | some .folder => true
  | _ => false

/-- The content of the file that a path leads to. -/
def content? (t : FileTree) (p : Path) : Option (List UInt8) :=
  match t.find? p with
  | some (.file content) => some content
  | _ => none

/-! ## Changing -/

/-- Make one folder, whose own folder must be there. -/
def makeFolder (t : FileTree) (p : Path) : Except FileFault FileTree :=
  if p.isUnusable then .error .unusableName
  else
    match t.follow p with
    | .inside place =>
      match t.entry? place with
      | some _ => .error (.occupied p.text)
      | none => .ok (t.put place .folder)
    | .outside true => .error (.occupied p.text)
    | .outside false => .ok t
    | .missing => .error (.missing p.text)
    | .blocked => .error (.notFolder p.text)

/-- Make a folder unless it is there already. -/
def ensureFolder (t : FileTree) (p : Path) : FileTree × Option FileFault :=
  match t.makeFolder p with
  | .ok t => (t, none)
  | .error .unusableName => (t, some .unusableName)
  | .error fault => if t.isFolder p then (t, none) else (t, some fault)

/-- Make a folder and those on the way to it, given its names from the last to the first. The
    folders that were made stay when a later one is refused. -/
def ensureFolders (t : FileTree) (anchor : Anchor) : List String → FileTree × Option FileFault
  | [] => (t, none)
  | name :: up =>
    let p : Path := ⟨anchor, (name :: up).reverse⟩
    match t.ensureFolder p with
    | (t, some (.missing _)) =>
      match t.ensureFolders anchor up with
      | (t, none) => t.ensureFolder p
      | refused => refused
    | outcome => outcome

/-- Write a file whose folder is there. -/
def writeFile (t : FileTree) (p : Path) (content : List UInt8) : Except FileFault FileTree :=
  if p.isUnusable then .error .unusableName
  else
    match t.follow p with
    | .inside place =>
      match t.entry? place with
      | some .folder => .error (.isFolder p.text)
      | _ => .ok (t.put place (.file content))
    | .outside true => .error (.isFolder p.text)
    | .outside false => .ok t
    | .missing => .error (.missing p.text)
    | .blocked => .error (.notFolder p.text)

/-- Write a file and make the folders on the way to it. -/
def write (t : FileTree) (p : Path) (content : List UInt8) : FileTree × Option FileFault :=
  match t.ensureFolders p.anchor p.names.reverse.tail with
  | (t, some fault) => (t, some fault)
  | (t, none) =>
    match t.writeFile p content with
    | .ok t => (t, none)
    | .error fault => (t, some fault)

/-! ## Listing -/

/-- The files of the tree with their contents. -/
def files (t : FileTree) : List (Location × List UInt8) :=
  t.entries.filterMap fun
    | (place, .file content) => some (place, content)
    | _ => none

/-- The names in a folder, with what they name. -/
def namesIn (t : FileTree) (place : Location) : List (String × Entry) :=
  t.entries.filterMap fun (l, entry) =>
    match l.reverse with
    | name :: up => if up.reverse == place then some (name, entry) else none
    | [] => none

/-- The folders inside a folder at any depth, as names from there; the folder itself is first. -/
def foldersIn (t : FileTree) (place : Location) : List (List String) :=
  [] :: t.entries.filterMap fun (l, entry) =>
    if entry = .folder && place.isPrefixOf l then some (l.drop place.length) else none

/-- The paths that one step of a pattern leads to from a path, folders only when `folder` asks for
    them. -/
def stepFrom (t : FileTree) (folder : Bool) (step : PatternStep) (p : Path) : List Path :=
  match step with
  | .name name =>
    match t.find? (p.child name) with
    | some entry => if folder && entry ≠ .folder then [] else [p.child name]
    | none => []
  | .pattern pattern =>
    match t.follow p with
    | .inside place =>
      (t.namesIn place).filterMap fun (name, entry) =>
        if (folder && entry ≠ .folder) || !pattern.covers name.toList then none
        else some (p.child name)
    | _ => []
  | .folders =>
    match t.follow p with
    | .inside place => (t.foldersIn place).map p.join
    | _ => [p]

/-- The paths that the steps of a pattern lead to from any of some paths, each once. A step that
    has others behind it leads to folders. -/
def selectFrom (t : FileTree) (foldersOnly : Bool) (ps : List Path) : List PatternStep → List Path
  | [] => ps
  | step :: rest =>
    let folder := foldersOnly || !rest.isEmpty
    t.selectFrom foldersOnly (ps.flatMap (t.stepFrom folder step)).eraseDups rest

/-- The paths from a folder on that a pattern covers. -/
def select (t : FileTree) (root : Path) (pattern : PathPattern) : List Path :=
  t.selectFrom pattern.foldersOnly [root] pattern.steps

end FileTree

end FormEdit
