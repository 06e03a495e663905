set_option autoImplicit false

/-! # Tokens

A token is one lexical unit of Clojure-family source: its kind, its exact text and the offset at
which it starts. All counts are in characters. -/

namespace FormEdit

/-- What a token is. A `mark` is a reader mark such as `'`, `#_` or `#inst`, which applies to the
    forms that follow it. -/
inductive TokenKind where
  | opener
  | closer
  | mark
  | atom
  | string
  | char
  | comment
  | whitespace
  | newline
  deriving DecidableEq, Repr

namespace TokenKind

/-- The name under which a kind is reported. -/
def name : TokenKind → String
  | opener => "open"
  | closer => "close"
  | mark => "prefix"
  | atom => "atom"
  | string => "string"
  | char => "char"
  | comment => "comment"
  | whitespace => "whitespace"
  | newline => "newline"

/-- All kinds. -/
def all : List TokenKind :=
  [opener, closer, mark, atom, string, char, comment, whitespace, newline]

/-- The kind that is reported under a name. -/
def ofName? (s : String) : Option TokenKind := all.find? fun k => k.name == s

/-- Whether tokens of a kind carry no meaning: blanks, line ends and comments. -/
def isTrivia : TokenKind → Bool
  | comment | whitespace | newline => true
  | _ => false

end TokenKind

/-- One lexical unit. -/
structure Token where
  kind : TokenKind
  text : List Char
  offset : Int
  deriving DecidableEq, Repr

namespace Token

def isTrivia (t : Token) : Bool := t.kind.isTrivia

/-- The marks that apply to two forms, a description and what it describes. -/
def isTwoFormMark (text : List Char) : Bool := text == ['^'] || text == ['#', '^']

/-- The number of forms to which a mark applies; zero for any other token. -/
def arity (t : Token) : Nat :=
  match t.kind with
  | .mark => if isTwoFormMark t.text then 2 else 1
  | _ => 0

theorem arity_pos_iff (t : Token) : 0 < t.arity ↔ t.kind = .mark := by
  unfold arity
  cases t.kind <;> simp
  split <;> simp

/-- The token moved by a distance. -/
def shift (d : Int) (t : Token) : Token := { t with offset := t.offset + d }

/-- The text of a run of tokens. -/
def textOf (ts : List Token) : List Char := ts.flatMap Token.text

@[simp] theorem textOf_nil : textOf [] = [] := rfl

@[simp] theorem textOf_cons (t : Token) (ts : List Token) :
    textOf (t :: ts) = t.text ++ textOf ts := by simp [textOf]

@[simp] theorem textOf_append (ts us : List Token) :
    textOf (ts ++ us) = textOf ts ++ textOf us := by simp [textOf]

end Token

end FormEdit
