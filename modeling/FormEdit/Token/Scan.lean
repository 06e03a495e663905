import FormEdit.Position
import FormEdit.Text.AlphaNumeric
import FormEdit.Text.Blank
import FormEdit.Token.Basic

set_option autoImplicit false

/-! # Scanning source into tokens

Every character of the source comes to stand in exactly one token, blanks and comments included.
A token is cut off by its first character and the number of characters behind it that it reaches
over, so nothing is lost and each cut makes the rest shorter. Scanning stops only at a string or a
character literal that is still open at the end; brackets are not looked at here. -/

namespace FormEdit

/-- Whether a character belongs to a run of blanks within a line. -/
def isSpacing (c : Char) : Bool := c = ',' || (isBlank c && c ≠ '\n')

/-- Whether a character ends an atom. -/
def isDelimiter (c : Char) : Bool :=
  [',', '(', ')', '[', ']', '{', '}', '"', ';'].contains c || isBlank c

/-- How many characters an atom has at the front of a text. -/
def atomReach (r : List Char) : Nat := (r.takeWhile fun c => !isDelimiter c).length

/-- How many characters a comment has at the front of a text: it ends before the line feed. -/
def lineReach (r : List Char) : Nat := (r.takeWhile fun c => c ≠ '\n').length

/-- How many characters, added to `n`, reach over the closing quotation mark of a string whose
    opening one is behind. A backslash takes the next character with it. -/
def stringReach? (n : Nat) : List Char → Option Nat
  | [] => none
  | ['\\'] => none
  | '\\' :: _ :: r => stringReach? (n + 2) r
  | c :: r => if c = '"' then some (n + 1) else stringReach? (n + 1) r

/-- A literal that the end of the source leaves open. -/
inductive OpenLiteral where
  | string
  | char
  deriving DecidableEq, Repr

/-- The kind of a token that starts with `#`, and how far it reaches into what follows. -/
def hashReach (r : List Char) : Except OpenLiteral (TokenKind × Nat) :=
  match r with
  | [] => .ok (.atom, 0)
  | c :: s =>
    if c = '{' || c = '(' then .ok (.opener, 1)
    else if c = '"' then
      match stringReach? 1 s with
      | some n => .ok (.string, n)
      | none => .error .string
    else if c = '!' then .ok (.comment, lineReach r)
    else if c = '_' || c = '\'' || c = '=' || c = '^' then .ok (.mark, 1)
    else if c = '?' then .ok (.mark, if s.head? = some '@' then 2 else 1)
    else if c = ':' then .ok (.mark, 1 + atomReach s)
    else if c = '#' then .ok (.atom, 1 + atomReach s)
    else if isDelimiter c then .ok (.atom, 0)
    else .ok (.mark, atomReach r)

/-- The kind of the token that starts with `c`, and how many characters of the text `r` behind it
    belong to it. -/
def reach (c : Char) (r : List Char) : Except OpenLiteral (TokenKind × Nat) :=
  if c = '\n' then .ok (.newline, 0)
  else if isSpacing c then .ok (.whitespace, (r.takeWhile isSpacing).length)
  else if c = ';' then .ok (.comment, lineReach r)
  else if c = '"' then
    match stringReach? 0 r with
    | some n => .ok (.string, n)
    | none => .error .string
  else if c = '\\' then
    match r with
    | [] => .error .char
    | d :: s => .ok (.char, if isAlphaNumeric d then 1 + atomReach s else 1)
  else if c = '(' || c = '[' || c = '{' then .ok (.opener, 0)
  else if c = ')' || c = ']' || c = '}' then .ok (.closer, 0)
  else if c = '#' then hashReach r
  else if c = '~' then .ok (.mark, if r.head? = some '@' then 1 else 0)
  else if c = '\'' || c = '\x60' || c = '@' || c = '^' then .ok (.mark, 0)
  else .ok (.atom, atomReach r)

/-- What a scan came to: the tokens, and the open literal before which it stopped, if any. -/
structure Scan where
  tokens : List Token
  stop : Option OpenLiteral
  deriving DecidableEq, Repr

/-- Scan the rest of a source that lies at `offset`, behind the tokens `done`, newest first. -/
def scanFrom (done : List Token) (offset : Int) : List Char → Scan
  | [] => ⟨done.reverse, none⟩
  | c :: r =>
    match reach c r with
    | .error literal => ⟨done.reverse, some literal⟩
    | .ok (kind, n) =>
      let text := c :: r.take n
      scanFrom (⟨kind, text, offset⟩ :: done) (offset + text.length) (r.drop n)
  termination_by s => s.length
  decreasing_by simp only [List.length_drop, List.length_cons]; omega

/-- Scan a source. -/
def scan (source : List Char) : Scan := scanFrom [] 0 source

/-- A source that cannot be cut into tokens: which literal is open and where it starts. -/
structure LexicalError where
  literal : OpenLiteral
  place : Position
  deriving DecidableEq, Repr

namespace OpenLiteral

def message : OpenLiteral → String
  | string => "Unterminated string literal"
  | char => "Unterminated character literal"

end OpenLiteral

/-- The tokens of a source, or the literal that it leaves open. -/
def tokenize (source : List Char) : Except LexicalError (List Token) :=
  let s := scan source
  match s.stop with
  | none => .ok s.tokens
  | some literal => .error ⟨literal, Position.start.advance (Token.textOf s.tokens)⟩

end FormEdit
