import FormEdit.Console.Flow

set_option autoImplicit false

/-! # Styled text

A text with tags shows as a text with stretches that have a style. A style changes nothing of what
shows, but what joins characters to clusters works within a stretch only when a line is filled up.
So a text keeps its stretches while it flows onto lines. -/

namespace FormEdit

/-- A stretch of a text: the number of characters before it, and before what follows it. -/
structure Stretch where
  start : Nat
  stop : Nat
  deriving DecidableEq, Repr

namespace Stretch

/-- What a text keeps of a stretch when it is cut off behind `n` characters. -/
def upTo? (n : Nat) (s : Stretch) : Option Stretch :=
  if s.start < n then some ⟨s.start, min n s.stop⟩ else none

/-- What `count` characters behind the first `n` have of a stretch. Nothing is no stretch. -/
def within? (n count : Nat) (s : Stretch) : Option Stretch :=
  let start := s.start - n
  let stop := min s.stop (n + count) - n
  if start < stop then some ⟨start, stop⟩ else none

end Stretch

/-- A text and the stretches of it that have a style. -/
structure Styled where
  text : List Char
  stretches : List Stretch
  deriving DecidableEq, Repr

namespace Styled

/-- Put characters in front, which the stretches count already. -/
def prepend (t : List Char) (s : Styled) : Styled := { s with text := t ++ s.text }

/-- The text changed to `t`. If that is shorter, the stretches end with it. -/
def changeTo (t : List Char) (s : Styled) : Styled :=
  if t.length < s.text.length then ⟨t, s.stretches.filterMap (Stretch.upTo? t.length)⟩
  else ⟨t, s.stretches⟩

/-! ## Pieces -/

/-- Cut a text at places given in order, where `done` characters are cut off already. -/
def cutAt (done : Nat) : List Nat → List Char → List (List Char)
  | [], t => [t]
  | k :: ks, t => t.take (k - done) :: cutAt k ks (t.drop (k - done))

/-- The places where stretches begin and end, in order. -/
def borders (s : Styled) : List Nat := (s.stretches.flatMap fun x => [x.start, x.stop]).mergeSort

/-- The pieces that a text is made of, cut where stretches begin and end. -/
def pieces (s : Styled) : List (List Char) := cutAt 0 s.borders s.text

/-! ## Lines -/

/-- Parts of a text that have the given lengths, with `gap` characters between them, behind the
    first `n`. -/
def parts (s : Styled) (gap n : Nat) : List Nat → List Styled
  | [] => []
  | count :: rest =>
    ⟨(s.text.drop n).take count, s.stretches.filterMap (Stretch.within? n count)⟩
      :: s.parts gap (n + count + gap) rest

/-- A text as the parts of it that are `lines`, with `gap` characters between them. -/
def onto (s : Styled) (gap : Nat) : List (List Char) → List Styled
  | [_] => [s]
  | lines => s.parts gap 0 (lines.map List.length)

/-- A line with its tabs expanded, and its stretches with them. -/
def expanded (s : Styled) : Styled :=
  if s.text.contains '\t' then
    let place (n : Nat) := (expandTabs (s.text.take n)).length
    ⟨expandTabs s.text,
      (s.stretches.filter fun x => x.start < x.stop).map fun x => ⟨place x.start, place x.stop⟩⟩
  else s

/-- The text on lines of a width. -/
def flow (o : Overflow) (width : Nat) (s : Styled) : List Styled :=
  (s.onto 1 (FormEdit.pieces '\n' s.text)).flatMap fun line =>
    let line := line.expanded
    (line.onto 0 (breakLine o width line.text)).map fun l =>
      l.changeTo (cutToWidth o width (trimBeyond width l.text))

/-- A line filled up with spaces. -/
def padded (width : Nat) (s : Styled) : Styled := { s with text := padEnd width s.text }

/-- A line in the middle of a width. -/
def centred (width : Nat) (s : Styled) : Styled :=
  let s := s.changeTo (trimEnd s.text)
  let left := (width - cellLength s.text) / 2
  let shifted := s.stretches.map fun x => ⟨left + x.start, left + x.stop⟩
  padded width ⟨blanks left ++ s.text, shifted⟩

end Styled

end FormEdit
