import FormEdit.Document.Trail
import FormEdit.Value.Basic

set_option autoImplicit false

/-! # The form at a line

The top-level form at a line is the first whose lines include it. Forms start in order of their
lines, so the search is over at the first form that starts behind the line. -/

namespace FormEdit

/-- A top-level form found for a line: its index among the top-level nodes, the node, where it
    starts and the line on which it ends. -/
structure LocatedForm where
  index : Nat
  node : Node
  start : Position
  endLine : Int

namespace LocatedForm

def startLine (f : LocatedForm) : Int := f.start.line

def text (f : LocatedForm) : List Char := f.node.text

end LocatedForm

/-- The forms among nodes of which the first has index `i` and starts at `here`. -/
def placedForms (i : Nat) (here : Position) : List Node → List LocatedForm
  | [] => []
  | n :: ns =>
    let behind := here.advance n.text
    let rest := placedForms (i + 1) behind ns
    if n.isTrivia then rest else ⟨i, n, here, behind.line⟩ :: rest

/-- The form at a line among forms in order. -/
def formAtLine (line : Int) : List LocatedForm → Option LocatedForm
  | [] => none
  | f :: fs =>
    if line < f.startLine then none
    else if line ≤ f.endLine then some f
    else formAtLine line fs

namespace Document

/-- The top-level forms of a document with their places. -/
def placedForms (d : Document) : List LocatedForm := FormEdit.placedForms 0 Position.start d.nodes

/-- The top-level form at a line of a document. -/
def locate (d : Document) (line : Int) : Option LocatedForm := formAtLine line d.placedForms

end Document

/-- The top-level forms at lines of a source. There are none where the source is not well formed,
    and lines count from one. -/
def locateEach (source : List Char) (lines : List Int) : List (Option LocatedForm) :=
  match Document.parse source with
  | .error _ => lines.map fun _ => none
  | .ok d =>
    let forms := d.placedForms
    lines.map fun line => if line < 1 then none else formAtLine line forms

/-- The top-level form at a line of a source. -/
def locate (source : List Char) (line : Int) : Option LocatedForm :=
  if line < 1 then none
  else
    match Document.parse source with
    | .error _ => none
    | .ok d => d.locate line

/-- Locating lines together is locating each of them. -/
theorem locateEach_eq (source : List Char) (lines : List Int) :
    locateEach source lines = lines.map (locate source) := by
  unfold locateEach
  split
  · next h =>
    refine List.map_congr_left fun line _ => ?_
    simp [locate, h]
  · next d h =>
    refine List.map_congr_left fun line _ => ?_
    simp [locate, h, Document.locate]

/-- The top-level form at a line, where source and line are values of any kind. -/
def locateValue : Value → Value → Option LocatedForm
  | .text source, .int line => locate source.toList line
  | _, _ => none

end FormEdit
