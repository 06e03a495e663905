import FormEdit.Document.Trail

set_option autoImplicit false

/-! # An index of positions

An index finds out on demand where the nodes of one document start, and keeps what it has found. A
question goes down its path from the top. On each level it goes on from the nearest sibling whose
start is known, or from the front of the form around it, and notes the start of each sibling that it
passes. What was noted stays known also when the path turns out to name no node. -/

namespace FormEdit

/-- Where nodes start as far as it is known, by their paths from the top, newest first. -/
abbrev Starts := List (List Int × Position)

namespace Starts

/-- The path of the node with index `j` inside the form at the path `front`. -/
def child (front : List Int) (j : Nat) : List Int := front ++ [(j : Int)]

/-- The nearest index at or before `k` where the start is known; the first if none is. -/
def nearest (known : Starts) (front : List Int) : Nat → Nat
  | 0 => 0
  | k + 1 =>
    if (known.lookup (child front (k + 1))).isSome then k + 1 else nearest known front k

/-- Move over nodes, of which the first has index `j` and starts at `p`, and note where the node
    behind each of them starts. -/
def note (front : List Int) : List Node → Nat → Position → Starts → Starts
  | [], _, _, known => known
  | n :: ns, j, p, known =>
    let q := p.advance n.text
    note front ns (j + 1) q ((child front (j + 1), q) :: known)

/-- See to it that the start of the node with index `k` among the children `ns` of the form at the
    path `front` is known. The first child starts where `first` says, which is asked only if no
    sibling before the node is known. -/
def reachChild (front : List Int) (ns : List Node) (first : Starts → Option Position × Starts)
    (k : Nat) (known : Starts) : Bool × Starts :=
  let j := nearest known front k
  let passed := (ns.drop j).take (k - j)
  match known.lookup (child front j) with
  | some p => (true, note front passed j p known)
  | none =>
    match first known with
    | (none, known) => (false, known)
    | (some p, known) => (true, note front passed j p ((child front 0, p) :: known))

mutual

/-- Where the node at a path starts, none where no node is, and what is known then. -/
def find (d : Document) (path : List Int) (known : Starts) : Option Position × Starts :=
  match known.lookup path with
  | some p => (some p, known)
  | none =>
    if path.isEmpty then (none, known)
    else
      match descend d [] [] d.nodes path known with
      | (false, known) => (none, known)
      | (true, known) => (known.lookup path, known)
  termination_by (path.length, path.length + 1)
  decreasing_by
    simp only [Prod.lex_def, List.length_nil]
    omega

/-- Go down the path `rest` from the form at the path `front`, which has the text `opening` before
    its children `ns`, and make the start of each node on the way known. A single token has nothing
    inside it. -/
def descend (d : Document) (front : List Int) (opening : List Char) (ns : List Node)
    (rest : List Int) (known : Starts) : Bool × Starts :=
  match rest with
  | [] => (true, known)
  | i :: rest =>
    if i < 0 then (false, known)
    else
      match ns[i.toNat]? with
      | none => (false, known)
      | some n =>
        let first (known : Starts) : Option Position × Starts :=
          if front.isEmpty then (some .start, known)
          else
            let (p, known) := find d front known
            (p.map (·.advance opening), known)
        match reachChild front ns first i.toNat known with
        | (false, known) => (false, known)
        | (true, known) =>
          if !rest.isEmpty && !n.isComposite then (false, known)
          else descend d (front ++ [i]) n.openText n.children rest known
  termination_by (front.length + rest.length, rest.length)
  decreasing_by
    all_goals
      simp only [Prod.lex_def, List.length_append, List.length_cons, List.length_nil]
      omega

end

end Starts

/-- An index of the positions in a document. -/
structure PositionIndex where
  document : Document
  known : Starts

namespace PositionIndex

/-- The index of a document in which nothing is known yet. -/
def ofDocument (d : Document) : PositionIndex := ⟨d, []⟩

/-- Where the node at a path starts, none where no node is, and the index as it is then. -/
def position (x : PositionIndex) (path : List Int) : Option Position × PositionIndex :=
  let (p, known) := Starts.find x.document path x.known
  (p, { x with known })

/-- The answers to questions put to one index, one after the other. -/
def positions (x : PositionIndex) : List (List Int) → List (Option Position)
  | [] => []
  | path :: paths =>
    let (p, x) := x.position path
    p :: x.positions paths

end PositionIndex

end FormEdit
