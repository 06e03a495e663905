import FormEdit.Text.Occurrence

set_option autoImplicit false

/-! # Paths

A path is where it starts and the names that it goes through. Writing a path joins the names with
slashes; reading one drops empty names and names that are a single point, so a path has one
written form. Two points are a name like any other here: what they lead to depends on the
folders that are there. -/

namespace FormEdit

/-- Where a path starts: at the working folder, at the root, at the root written with two slashes,
    or at a folder that is known by its absolute spelling. -/
inductive Anchor where
  | here
  | root
  | doubleRoot
  | folder (spelling : String)
  deriving DecidableEq, Repr

/-- A path: where it starts, and the names from there. -/
structure Path where
  anchor : Anchor
  names : List String
  deriving DecidableEq, Repr

namespace Path

/-- Where a written path starts: two slashes stay two, and more are as good as one. -/
def anchorOf (t : List Char) : Anchor :=
  match (t.takeWhile (· = '/')).length with
  | 0 => .here
  | 2 => .doubleRoot
  | _ => .root

/-- The names that a written path goes through. -/
def namesOf (t : List Char) : List String :=
  ((pieces '/' t).filter fun n => n ≠ [] && n ≠ ['.']).map String.ofList

/-- The path that a text writes. -/
def ofText (s : String) : Path := ⟨anchorOf s.toList, namesOf s.toList⟩

/-- The written form of a path. -/
def text (p : Path) : String :=
  let names := String.intercalate "/" p.names
  match p.anchor with
  | .here => if p.names.isEmpty then "." else names
  | .root => "/" ++ names
  | .doubleRoot => "//" ++ names
  | .folder spelling => if p.names.isEmpty then spelling else spelling ++ "/" ++ names

/-- The path one name further. -/
def child (p : Path) (name : String) : Path := { p with names := p.names ++ [name] }

/-- The path further along a relative one. -/
def join (p : Path) (names : List String) : Path := { p with names := p.names ++ names }

/-- The path with its last name dropped. -/
def parent (p : Path) : Path := { p with names := p.names.dropLast }

/-- Whether a name on the way holds a character that no file name can hold. -/
def isUnusable (p : Path) : Bool := p.names.any fun n => n.toList.contains '\x00'

/-- The last name of a path. -/
def lastName (p : Path) : String := p.names.getLast?.getD ""

/-- What follows the last point of a name, the point included. A point that stands first or last
    starts no extension. -/
def extensionOf (name : List Char) : List Char :=
  let back := name.reverse.takeWhile (· ≠ '.')
  let front := name.length - back.length
  if back.length = name.length || back.isEmpty || front ≤ 1 then [] else '.' :: back.reverse

/-- The extension of a path's last name. -/
def extension (p : Path) : List Char := extensionOf p.lastName.toList

end Path

/-- The extensions of Clojure source. -/
def clojureExtensions : List String := [".clj", ".cljs", ".cljc", ".edn"]

/-- Whether a path has an extension of Clojure source. Only letters of ASCII occur in these, so
    only they need to be made small. -/
def isClojurePath (p : Path) : Bool :=
  clojureExtensions.contains (String.ofList (p.extension.map Char.toLower))

end FormEdit
