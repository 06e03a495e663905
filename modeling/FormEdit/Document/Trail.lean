import FormEdit.Document.Basic

set_option autoImplicit false

/-! # Trails through a document

A trail names a node by its index among its siblings, then by the index of its parent, and so on
to the top. The path that is shown to people is the same list from the top down. Where a node
starts is found by moving over the text of everything before it. -/

namespace FormEdit

/-- Indexes from a form up to the top level; the empty trail is the document itself. -/
abbrev Trail := List Nat

namespace Document

/-- The children of the form at a trail, none where no form is. -/
def childrenAt (d : Document) : Trail → List Node
  | [] => d.nodes
  | i :: up =>
    match (d.childrenAt up)[i]? with
    | some n => n.children
    | none => []

/-- The node with index `i` among the children of the form at the trail `up`. -/
def node? (d : Document) (i : Nat) (up : Trail) : Option Node := (d.childrenAt up)[i]?

/-- The children of the form at a trail and where the first of them starts, or would start. -/
def inside? (d : Document) : Trail → Option (List Node × Position)
  | [] => some (d.nodes, .start)
  | i :: up =>
    match d.inside? up with
    | none => none
    | some (ns, p) =>
      ns[i]?.map fun n => (n.children, (p.advance (Node.textOf (ns.take i))).advance n.openText)

/-- Where the node with index `i` at the trail `up` starts. -/
def startOf? (d : Document) (i : Nat) (up : Trail) : Option Position :=
  match d.inside? up with
  | none => none
  | some (ns, p) => ns[i]?.map fun _ => p.advance (Node.textOf (ns.take i))

/-- The index and trail that a path from the top names. Negative numbers name no child, and the
    empty path names no node. -/
def trailOfPath? (path : List Int) : Option (Nat × Trail) :=
  if path.all (0 ≤ ·) then
    match (path.map Int.toNat).reverse with
    | [] => none
    | i :: up => some (i, up)
  else none

/-- The node at a path and where it starts. -/
def atPath? (d : Document) (path : List Int) : Option (Node × Position) := do
  let (i, up) ← trailOfPath? path
  let n ← d.node? i up
  let p ← d.startOf? i up
  return (n, p)

/-- The top-level nodes once the children of the form at a trail are exchanged for `cs`. -/
def exchange (d : Document) : Trail → List Node → List Node
  | [], cs => cs
  | i :: up, cs =>
    match d.node? i up with
    | some n => d.exchange up ((d.childrenAt up).set i (n.withChildren cs))
    | none => d.nodes

/-- The document with `nodes` in the place of the node with index `i` at the trail `up`. -/
def splice (d : Document) (i : Nat) (up : Trail) (nodes : List Node) : Document :=
  let siblings := d.childrenAt up
  { d with nodes := d.exchange up (siblings.take i ++ (nodes ++ siblings.drop (i + 1))) }

end Document

namespace Node

/-- The line on which a node ends that starts on line `start`. -/
def endLine (n : Node) (start : Int) : Int := start + n.text.count '\n'

end Node

end FormEdit
