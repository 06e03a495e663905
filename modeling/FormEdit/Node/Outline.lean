import FormEdit.Node.Basic
import FormEdit.Text.Quoted

set_option autoImplicit false

/-! # Outlines of trees

An outline lists the nodes of a tree from the top, each before its children and with its depth. A
node's label is its one-line description. -/

namespace FormEdit.Node

mutual

/-- The nodes of a tree with their depths, a node before its children, followed by `rest`. -/
def outlineThen (depth : Nat) : Node → List (Nat × Node) → List (Nat × Node)
  | leaf t, rest => (depth, leaf t) :: rest
  | delimited b o cs c, rest => (depth, delimited b o cs c) :: listOutlineThen (depth + 1) cs rest
  | marked m cs, rest => (depth, marked m cs) :: listOutlineThen (depth + 1) cs rest

/-- The nodes of a list of trees with their depths, followed by `rest`. -/
def listOutlineThen (depth : Nat) : List Node → List (Nat × Node) → List (Nat × Node)
  | [], rest => rest
  | n :: ns, rest => n.outlineThen depth (listOutlineThen depth ns rest)

end

/-- The nodes of a list of trees with their depths, the trees themselves at depth zero. -/
def outline (ns : List Node) : List (Nat × Node) := listOutlineThen 0 ns []

/-- The one-line description of a node. -/
def label : Node → String
  | leaf t => s!"Leaf({t.kind.name}, {String.ofList (quoted t.text)})"
  | delimited b o cs c =>
    s!"Composite({b.name}, {String.ofList (quoted o.text)}..{String.ofList (quoted c.text)}, "
      ++ s!"{cs.length} children)"
  | marked m cs => s!"Composite(prefixed, {String.ofList (quoted m.text)}..'', {cs.length} children)"

end FormEdit.Node
