import FormEdit.Console.Picture
import FormEdit.Console.Styled

set_option autoImplicit false

/-! # Text with style tags

A console text may have style tags in square brackets, which do not show, and names of pictures
between colons, which show as the pictures. A tag opens a style or, behind a slash, closes one.
Backslashes in front of a tag count: two of them show as one, and an odd one left over makes the
tag show as text. -/

namespace FormEdit

/-- What is wrong with the tags of a text. -/
inductive MarkupError where
  | unmatched (tag : String)
  | nothingToClose
  deriving DecidableEq, Repr

namespace MarkupError

def message : MarkupError → String
  | unmatched tag => s!"closing tag '[{tag}]' doesn't match any open tag"
  | nothingToClose => "closing tag '[/]' has nothing to close"

end MarkupError

namespace Markup

/-! ## Finding tags -/

/-- A part of a text with tags: plain text, or a tag behind a number of backslashes. -/
inductive Part where
  | plain (t : List Char)
  | tag (slashes : Nat) (body : List Char)
  deriving DecidableEq, Repr

/-- Whether a tag may begin with a character. -/
def isTagStart (c : Char) : Bool := ('a' ≤ c && c ≤ 'z') || c = '#' || c = '/' || c = '@'

/-- Whether a character may stand in a tag: all but brackets. -/
def isTagBody (c : Char) : Bool := c != '[' && c != ']'

/-- What a tag holds and what follows it, when a tag stands behind an opening bracket. -/
def tagBody? : List Char → Option (List Char × List Char)
  | [] => none
  | c :: r =>
    if isTagStart c then
      match r.dropWhile isTagBody with
      | ']' :: rest => some (c :: r.takeWhile isTagBody, rest)
      | _ => none
    else none

theorem length_of_tagBody? {t body rest : List Char} (h : tagBody? t = some (body, rest)) :
    rest.length < t.length := by
  cases t with
  | nil => simp [tagBody?] at h
  | cons c r =>
    have hle := (List.dropWhile_suffix isTagBody (l := r)).length_le
    simp only [tagBody?] at h
    split at h
    · split at h
      · rename_i rest' hdrop
        simp only [Option.some.injEq, Prod.mk.injEq] at h
        rw [hdrop, h.2] at hle
        simp only [List.length_cons] at hle ⊢
        omega
      · simp at h
    · simp at h

/-- A plain part, unless it is empty. -/
def plainPart (cur : List Char) : List Part := if cur.isEmpty then [] else [.plain cur.reverse]

/-- Cut a text into parts, where `cur` holds the plain characters before, newest first, and
    `slashes` backslashes stand between them and `t`. -/
def partsFrom (cur : List Char) (slashes : Nat) (t : List Char) : List Part :=
  let held := List.replicate slashes '\\' ++ cur
  match t with
  | [] => plainPart held
  | '\\' :: r => partsFrom cur (slashes + 1) r
  | '[' :: r =>
    match h : tagBody? r with
    | some (body, rest) =>
      have := length_of_tagBody? h
      plainPart cur ++ .tag slashes body :: partsFrom [] 0 rest
    | none => partsFrom ('[' :: held) 0 r
  | c :: r => partsFrom (c :: held) 0 r
  termination_by t.length
  decreasing_by all_goals (simp only [List.length_cons]; omega)

/-- The parts of a text. -/
def parts (t : List Char) : List Part := partsFrom [] 0 t

/-! ## Escaping -/

/-- A part as it has to be written to show as it is. -/
def Part.escaped : Part → List Char
  | plain t => t
  | tag slashes body => List.replicate (2 * slashes + 1) '\\' ++ ('[' :: (body ++ [']']))

/-- Write a text so that its tags show. A single backslash at the end is doubled, so that it does
    not count for a tag that follows. -/
def escape (t : List Char) : List Char :=
  let t := (parts t).flatMap Part.escaped
  match t.reverse with
  | ['\\'] => t ++ ['\\']
  | '\\' :: c :: _ => if c = '\\' then t else t ++ ['\\']
  | _ => t

/-! ## Showing -/

/-- The usual name of a style that has a short one. -/
def styleWord (w : String) : String :=
  match w with
  | "b" => "bold"
  | "d" => "dim"
  | "i" => "italic"
  | "u" => "underline"
  | "uu" => "underline2"
  | "r" => "reverse"
  | "c" => "conceal"
  | "s" => "strike"
  | "o" => "overline"
  | w => w

/-- The name under which a style is opened and closed: in small letters, its words in full. -/
def styleName (t : List Char) : String :=
  let small := t.map Char.toLower
  " ".intercalate ((words small).map fun w => styleWord (String.ofList (strip w)))

/-- A style that is open: its name, and the number of characters before it. -/
structure OpenStyle where
  name : String
  start : Nat
  deriving DecidableEq, Repr

/-- Take the innermost style of a name from the open ones, given innermost first. -/
def close? (name : String) : List OpenStyle → Option (OpenStyle × List OpenStyle)
  | [] => none
  | s :: r => if s.name = name then some (s, r) else (close? name r).map fun (c, r) => (c, s :: r)

/-- Plain text as it shows: a backslash before an opening bracket does not. -/
def plainText : List Char → List Char
  | '\\' :: '[' :: r => '[' :: plainText r
  | c :: r => c :: plainText r
  | [] => []

/-- The style that a tag closes, if it closes one, and the open styles behind the tag, which has `n`
    characters before it. -/
def afterTag (n : Nat) (styles : List OpenStyle) (body : List Char) :
    Except MarkupError (Option OpenStyle × List OpenStyle) :=
  let name := body.takeWhile (· != '=')
  match name with
  | '/' :: r =>
    let closed := strip r
    if closed.isEmpty then
      match styles with
      | [] => .error .nothingToClose
      | s :: styles => .ok (some s, styles)
    else
      match close? (styleName closed) styles with
      | some (s, styles) => .ok (some s, styles)
      | none => .error (.unmatched (String.ofList body))
  | name => .ok (none, ⟨styleName name, n⟩ :: styles)

/-- The text that parts show behind `n` characters, when styles are open. Those that are not closed
    reach up to the end. -/
def showFrom (n : Nat) (styles : List OpenStyle) : List Part → Except MarkupError Styled
  | [] => .ok ⟨[], styles.map fun s => ⟨s.start, n⟩⟩
  | .plain t :: r =>
    let t := withoutMovement (Picture.draw (plainText t))
    Styled.prepend t <$> showFrom (n + t.length) styles r
  | .tag slashes body :: r =>
    let front := List.replicate (slashes / 2) '\\'
    if slashes % 2 = 1 then
      let t := front ++ withoutMovement (Picture.draw ('[' :: (body ++ [']'])))
      Styled.prepend t <$> showFrom (n + t.length) styles r
    else
      let n := n + front.length
      match afterTag n styles body with
      | .error e => .error e
      | .ok (closed, styles) => do
        let s ← showFrom n styles r
        let stretches := closed.elim s.stretches fun c => ⟨c.start, n⟩ :: s.stretches
        return ⟨front ++ s.text, stretches⟩

/-- The text that a text with tags shows. -/
def shown (t : List Char) : Except MarkupError Styled := showFrom 0 [] (parts t)

end Markup

end FormEdit
