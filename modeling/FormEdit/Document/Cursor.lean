import FormEdit.Document.Trail
import FormEdit.Node.Outline

set_option autoImplicit false

/-! # Cursors

A cursor is a place in a document: one of its nodes, or the end marker. Moving goes from form to
form and passes trivia over. Editing gives a cursor on a new document and leaves the old one as it
is. The end marker is where every move that leads nowhere ends, and moving from it stays there. -/

namespace FormEdit

/-- A place in a document: a node by index and trail, or the end marker. -/
structure Cursor where
  document : Document
  place : Option (Nat × Trail)

/-- Why an operation of a cursor cannot be done. -/
inductive CursorError where
  | atEnd
  | invalidText (e : BuildError)
  | noForm
  deriving DecidableEq, Repr

namespace CursorError

def message : CursorError → String
  | atEnd => "Cursor is at the end marker"
  | invalidText e => e.message
  | noForm => "Text holds no form"

end CursorError

namespace Cursor

/-- The index of the first form among `ns` at or behind index `k`. -/
def formFrom? (ns : List Node) (k : Nat) : Option Nat :=
  ((ns.drop k).findIdx? fun n => !n.isTrivia).map (· + k)

/-- The index of the last form among `ns` before index `k`. -/
def formBefore? (ns : List Node) (k : Nat) : Option Nat :=
  ((ns.take k).reverse.findIdx? fun n => !n.isTrivia).map fun j => (ns.take k).length - 1 - j

/-- The cursor at another place of the same document. -/
def at? (c : Cursor) (place : Option (Nat × Trail)) : Cursor := { c with place }

/-- The cursor at the first top-level form of a document. -/
def first (d : Document) : Cursor := ⟨d, (formFrom? d.nodes 0).map fun i => (i, [])⟩

/-- Whether the cursor is at the end marker. -/
def isEnd (c : Cursor) : Bool := c.place.isNone

/-- The node under the cursor. -/
def node? (c : Cursor) : Option Node := c.place.bind fun p => c.document.node? p.1 p.2

/-- Where the node under the cursor starts. -/
def position? (c : Cursor) : Option Position :=
  c.place.bind fun p => c.document.startOf? p.1 p.2

/-- The line on which the node under the cursor ends. -/
def endLine? (c : Cursor) : Option Int :=
  match c.position?, c.node? with
  | some p, some n => some (n.endLine p.line)
  | _, _ => none

/-- The number of forms around the node under the cursor. -/
def depth? (c : Cursor) : Option Nat := c.place.map fun p => p.2.length

/-- The path from the top to the node under the cursor. -/
def path? (c : Cursor) : Option (List Nat) := c.place.map fun p => (p.1 :: p.2).reverse

/-! ## Moving -/

/-- To the next form beside this one. -/
def next (c : Cursor) : Cursor :=
  match c.place with
  | none => c
  | some (i, up) => c.at? ((formFrom? (c.document.childrenAt up) (i + 1)).map fun j => (j, up))

/-- To the form before this one. -/
def prev (c : Cursor) : Cursor :=
  match c.place with
  | none => c
  | some (i, up) => c.at? ((formBefore? (c.document.childrenAt up) i).map fun j => (j, up))

/-- To the form around this one. -/
def up (c : Cursor) : Cursor :=
  match c.place with
  | some (_, i :: up) => c.at? (some (i, up))
  | _ => c.at? none

/-- To the first form inside this one. -/
def down (c : Cursor) : Cursor :=
  match c.place with
  | none => c
  | some (i, up) =>
    c.at? ((formFrom? (c.document.childrenAt (i :: up)) 0).map fun j => (j, i :: up))

/-- How many nodes lie from the one under the cursor on to the last one beside it; none at the end
    marker. -/
def ahead (c : Cursor) : Nat :=
  match c.place with
  | none => 0
  | some (i, up) => (c.document.childrenAt up).length - i + 1

/-- A form that is found lies at or behind the index where the search starts. -/
theorem le_of_formFrom? {ns : List Node} {k j : Nat} (h : formFrom? ns k = some j) :
    k ≤ j ∧ j < ns.length := by
  obtain ⟨m, hm, rfl⟩ := Option.map_eq_some_iff.1 h
  have := (List.findIdx?_eq_some_iff_findIdx_eq.1 hm).1
  rw [List.length_drop] at this
  omega

/-- Moving on leaves fewer nodes ahead. -/
theorem ahead_next_lt {c : Cursor} (h : c.isEnd = false) : c.next.ahead < c.ahead := by
  obtain ⟨d, place⟩ := c
  match place with
  | none => cases h
  | some (i, up) =>
    simp only [next, at?, ahead]
    cases hj : formFrom? (d.childrenAt up) (i + 1) with
    | none => simp
    | some j =>
      have := le_of_formFrom? hj
      simp only [Option.map_some]
      omega

/-- The cursors on this form and on every form behind it beside it. -/
def siblings (c : Cursor) : List Cursor :=
  if c.isEnd then [] else c :: c.next.siblings
  termination_by c.ahead
  decreasing_by
    next hc => exact ahead_next_lt (by simpa using hc)

/-! ## Editing -/

/-- Put nodes in the place of the one under the cursor. The new cursor is on the first form among
    them. -/
def splice (c : Cursor) (nodes : List Node) : Except CursorError Cursor :=
  match c.place with
  | none => .error .atEnd
  | some (i, up) =>
    .ok ⟨c.document.splice i up nodes, (formFrom? nodes 0).map fun k => (i + k, up)⟩

/-- Put one node in the place of the one under the cursor. -/
def replace (c : Cursor) (node : Node) : Except CursorError Cursor := c.splice [node]

/-- Put all that a text holds in the place of the node under the cursor. -/
def spliceText (c : Cursor) (text : List Char) : Except CursorError Cursor :=
  match Document.parse text with
  | .error e => .error (.invalidText e)
  | .ok d => c.splice d.nodes

/-- Put the first form of a text in the place of the node under the cursor. -/
def replaceText (c : Cursor) (text : List Char) : Except CursorError Cursor :=
  match Document.parse text with
  | .error e => .error (.invalidText e)
  | .ok d =>
    match d.forms with
    | [] => .error .noForm
    | n :: _ => c.replace n

/-- The text of the whole document. -/
def rootText (c : Cursor) : List Char := c.document.text

/-- The one-line description of a cursor. -/
def label (c : Cursor) : String :=
  match c.path?, c.node? with
  | some path, some n =>
    let steps := String.intercalate ", " (path.map toString)
    let steps := if path.length = 1 then steps ++ "," else steps
    s!"Cursor(path=({steps}), node={n.label})"
  | _, _ => "Cursor(<end>)"

end Cursor

end FormEdit
