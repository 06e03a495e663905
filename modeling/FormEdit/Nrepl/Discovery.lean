import FormEdit.Settings.Load
import FormEdit.Nrepl.Client

set_option autoImplicit false

/-! # Finding servers

A running server leaves its port in a file of the project. A port that several files name counts
for the first one only, and a server is found when its port accepts a connection. Files that hold
no port are passed over. -/

namespace FormEdit

/-- Where servers leave their ports, from the folder of the project. -/
def portFiles : List (List String) :=
  [[".nrepl-port"], [".shadow-cljs", "nrepl.port"], [".calva", "nrepl-port"]]

/-- A server that was found. -/
structure FoundServer where
  host : Value
  port : Int
  portFile : String

namespace FoundServer

def fields (s : FoundServer) : List (String × Value) :=
  [("host", s.host), ("port", .int s.port), ("port_file", .text s.portFile)]

end FoundServer

/-- The port that a file holds. -/
def portOf? (content : List UInt8) : Option Int :=
  match Utf8.decode content with
  | .error _ => none
  | .ok t => (Numeral.ofText (strip t)).toOption

/-- The ports that files name, each once with the first file that names it, when the ports in
    `seen` are named already. -/
def namedPorts (t : FileTree) (root : Path) (seen : List Int) :
    List (List String) → List (Int × Path)
  | [] => []
  | names :: rest =>
    let file := root.join names
    match (t.content? file).bind portOf? with
    | none => namedPorts t root seen rest
    | some port =>
      if seen.contains port then namedPorts t root seen rest
      else (port, file) :: namedPorts t root (port :: seen) rest

/-- Try to connect to each port, and keep those that accept. -/
def probe (host : Value) : List (Int × Path) → Network → List FoundServer × Network
  | [], n => ([], n)
  | (port, file) :: rest, n =>
    let (refused, n) := n.connect host port
    let (found, n) := probe host rest n
    (if refused.isSome then found else ⟨host, port, file.text⟩ :: found, n)

/-- Find the servers of a project. Without a folder it is the working folder, and without a host
    the one of the settings. -/
def discoverServers (folder host : Value) : Action (Except ServerError (List FoundServer)) := do
  let w ← get
  let root ← if folder.truthy then Path.ofText <$> Action.ofExcept folder.pathText else pure w.here
  let host ← if host.truthy then pure host else (fun s => Value.text s.host) <$> Settings.current
  let w ← get
  if !w.tree.isFolder root then
    return .error ⟨"discover-failed", s!"Directory not found: {root.text}", none⟩
  let (found, network) := probe host (namedPorts w.tree root [] portFiles) w.network
  set { w with network }
  return .ok found

end FormEdit
