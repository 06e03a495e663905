import FormEdit.Path.Basic

set_option autoImplicit false

/-! # Patterns of paths

A pattern of a name has stars for any characters, question marks for one, and brackets for one of
a set; all else stands for itself, as does a bracket that is not closed. A pattern of a path is a
pattern for each name, where two stars alone stand for any number of folders. -/

namespace FormEdit

/-- What one character of a set may be: one of the ranges, or none of them. -/
structure CharSet where
  negated : Bool
  ranges : List (Char × Char)
  deriving DecidableEq, Repr

namespace CharSet

def contains (k : CharSet) (c : Char) : Bool :=
  (k.ranges.any fun r => r.1 ≤ c && c ≤ r.2) != k.negated

/-- Cut the text of a set at the hyphens that make ranges, behind `cur`, newest first. A hyphen
    makes a range when a character stands before it that ends no other range; `fixed` counts the
    characters of which a hyphen cannot be one that makes a range. -/
def cutRanges (fixed : Nat) (cur : List Char) : List Char → List (List Char)
  | [] => [cur.reverse]
  | c :: r =>
    match fixed with
    | n + 1 => cutRanges n (c :: cur) r
    | 0 => if c = '-' then cur.reverse :: cutRanges 2 [] r else cutRanges 0 (c :: cur) r

/-- Give back the hyphen to a set that ends in one. -/
def keepLastHyphen (chunks : List (List Char)) : List (List Char) :=
  match chunks.reverse with
  | [] :: last :: front => ((last ++ ['-']) :: front).reverse
  | _ => chunks

/-- Drop the ranges that run backwards, from the last to the first. -/
def dropBackward : List (List Char) → List (List Char)
  | [] => []
  | chunk :: rest =>
    match dropBackward rest with
    | [] => [chunk]
    | next :: more =>
      match chunk.getLast?, next with
      | some a, b :: after => if b < a then (chunk.dropLast ++ after) :: more else chunk :: next :: more
      | _, _ => chunk :: next :: more

/-- The ranges of a cut set: every character of its own, and from the last character before each
    cut to the first one behind. -/
def rangesOf (chunks : List (List Char)) : List (Char × Char) :=
  (chunks.flatten.map fun c => (c, c)) ++
    (chunks.zip chunks.tail).filterMap fun (before, behind) =>
      match before.getLast?, behind.head? with
      | some a, some b => some (a, b)
      | _, _ => none

/-- The set of a cut text. An exclamation mark that stands first once the backward ranges are gone
    negates the set; a cut right behind it is a hyphen of the set. -/
def ofChunks (chunks : List (List Char)) : CharSet :=
  match chunks with
  | ('!' :: first) :: rest =>
    let hyphen := if first.isEmpty && !rest.isEmpty then [('-', '-')] else []
    ⟨true, hyphen ++ rangesOf (first :: rest)⟩
  | chunks => ⟨false, rangesOf chunks⟩

/-- The set that the text between brackets writes. -/
def ofText (t : List Char) : CharSet :=
  let fixed := if t.head? = some '!' then 2 else 1
  ofChunks (dropBackward (keepLastHyphen (cutRanges fixed [] t)))

end CharSet

/-- A piece of the pattern of a name. -/
inductive PatternPiece where
  | literal (c : Char)
  | one
  | many
  | set (k : CharSet)
  deriving DecidableEq, Repr

/-- Whether a piece covers a single character. -/
def PatternPiece.fits (c : Char) : PatternPiece → Bool
  | literal d => c = d
  | set k => k.contains c
  | one | many => true

/-- A pattern of a name. -/
abbrev NamePattern := List PatternPiece

namespace NamePattern

/-- Split off the text of a set behind its opening bracket. A closing bracket that stands first
    belongs to the set. -/
def takeSet (r : List Char) : Option (List Char × List Char) :=
  let lead := if r.head? = some '!' then 1 else 0
  let lead := if (r.drop lead).head? = some ']' then lead + 1 else lead
  let body := (r.drop lead).takeWhile (· ≠ ']')
  match (r.drop lead).drop body.length with
  | [] => none
  | _ :: rest => some (r.take lead ++ body, rest)

/-- Read a pattern, looking at no more than `fuel` pieces. A pattern has no more pieces than
    characters. -/
def readWith : Nat → List Char → NamePattern
  | 0, _ => []
  | _, [] => []
  | fuel + 1, c :: r =>
    if c = '*' then .many :: readWith fuel r
    else if c = '?' then .one :: readWith fuel r
    else if c = '[' then
      match takeSet r with
      | none => .literal '[' :: readWith fuel r
      | some (body, rest) => .set (CharSet.ofText body) :: readWith fuel rest
    else .literal c :: readWith fuel r

/-- The pattern that a text writes. -/
def ofText (t : List Char) : NamePattern := readWith t.length t

/-- For a pattern and each of its ends, the longest first: whether it covers the empty name. -/
def coversNothing : NamePattern → List Bool
  | [] => [true]
  | piece :: p =>
    let ends := coversNothing p
    (piece = .many && ends.headD false) :: ends

/-- For a pattern and each of its ends: whether it covers a name that begins with `c`, given the
    same for the rest of the name. A star covers the character and stays, or covers nothing. -/
def coversFrom (c : Char) : NamePattern → List Bool → List Bool
  | piece :: p, here :: behind =>
    let ends := coversFrom c p behind
    let first :=
      if piece = .many then here || ends.headD false else piece.fits c && behind.headD false
    first :: ends
  | _, _ => [false]

/-- Whether a pattern covers a whole name. -/
def covers (p : NamePattern) (name : List Char) : Bool :=
  (name.foldr (fun c ends => coversFrom c p ends) (coversNothing p)).headD false

end NamePattern

/-- What stands for one name of a path. -/
inductive PatternStep where
  | name (name : String)
  | pattern (p : NamePattern)
  | folders
  deriving DecidableEq, Repr

/-- A pattern of a path; it covers folders alone when it ends in a slash. -/
structure PathPattern where
  steps : List PatternStep
  foldersOnly : Bool
  deriving DecidableEq, Repr

/-- Why a text is no pattern of a path. -/
inductive PatternError where
  | empty
  | absolute
  | mixedStars
  | nowhere
  | nowhereFolder
  deriving DecidableEq, Repr

namespace PathPattern

/-- Whether a name of a pattern stands for more than itself. -/
def isWild (t : List Char) : Bool := t.any fun c => c = '*' || c = '?' || c = '['

/-- The step that a name of a pattern stands for. Two stars must stand alone. -/
def stepOf (name : String) : Option PatternStep :=
  let t := name.toList
  if t = ['*', '*'] then some .folders
  else if containsText ['*', '*'] t then none
  else if isWild t then some (.pattern (.ofText t))
  else some (.name name)

/-- The pattern that a text writes. -/
def ofText (s : String) : Except PatternError PathPattern :=
  let p := Path.ofText s
  let foldersOnly := s.toList.getLast? = some '/'
  if s.isEmpty then .error .empty
  else if p.anchor ≠ .here then .error .absolute
  else if p.names.isEmpty then .error (if foldersOnly then .nowhereFolder else .nowhere)
  else
    match p.names.mapM stepOf with
    | none => .error .mixedStars
    | some steps => .ok ⟨steps, foldersOnly⟩

end PathPattern

end FormEdit
