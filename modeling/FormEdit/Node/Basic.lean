import FormEdit.Token.Basic

set_option autoImplicit false

/-! # Trees of source

A node is a token that stands alone, a bracketed form, or a reader mark with the forms to which it
applies. Blanks, line ends and comments are nodes too, so the tokens of a tree in order are the
tokens of its source, and its text is the text that was read. -/

namespace FormEdit

/-- The bracketed forms. -/
inductive Bracket where
  | list
  | vector
  | map
  | set
  | fn
  deriving DecidableEq, Repr

namespace Bracket

def all : List Bracket := [list, vector, map, set, fn]

/-- The text that opens a form. -/
def opening : Bracket → List Char
  | list => ['(']
  | vector => ['[']
  | map => ['{']
  | set => ['#', '{']
  | fn => ['#', '(']

/-- The text that closes a form. -/
def closing : Bracket → List Char
  | list => [')']
  | vector => [']']
  | map => ['}']
  | set => ['}']
  | fn => [')']

def name : Bracket → String
  | list => "list"
  | vector => "vector"
  | map => "map"
  | set => "set"
  | fn => "fn"

/-- The form that a text opens. -/
def ofOpening? (text : List Char) : Option Bracket := all.find? fun b => b.opening == text

/-- No two forms open alike. -/
theorem ofOpening?_opening (b : Bracket) : ofOpening? b.opening = some b := by cases b <;> rfl

theorem opening_of_ofOpening? {text : List Char} {b : Bracket} (h : ofOpening? text = some b) :
    text = b.opening := by
  have := List.find?_some h
  simpa using (beq_iff_eq.1 this).symm

end Bracket

/-- A piece of source. The children of a form include the trivia inside it; the children of a mark
    are the forms to which it applies, with the trivia before each. -/
inductive Node where
  | leaf (token : Token)
  | delimited (bracket : Bracket) (opener : Token) (children : List Node) (closer : Token)
  | marked (mark : Token) (children : List Node)

namespace Node

mutual

/-- The tokens of a node in order, followed by `rest`. -/
def tokensThen : Node → List Token → List Token
  | leaf t, rest => t :: rest
  | delimited _ o cs c, rest => o :: listTokensThen cs (c :: rest)
  | marked m cs, rest => m :: listTokensThen cs rest

/-- The tokens of a list of nodes in order, followed by `rest`. -/
def listTokensThen : List Node → List Token → List Token
  | [], rest => rest
  | n :: ns, rest => n.tokensThen (listTokensThen ns rest)

end

/-- The tokens of a node in order. -/
def tokens (n : Node) : List Token := n.tokensThen []

/-- The tokens of a list of nodes in order. -/
def tokensOf (ns : List Node) : List Token := listTokensThen ns []

/-- The exact text of a node. -/
def text (n : Node) : List Char := Token.textOf n.tokens

/-- The exact text of a list of nodes. -/
def textOf (ns : List Node) : List Char := Token.textOf (tokensOf ns)

/-- Whether a node carries no meaning. Only a token that stands alone can. -/
def isTrivia : Node → Bool
  | leaf t => t.isTrivia
  | _ => false

/-- Whether a node may have others inside it. A single token has none. -/
def isComposite : Node → Bool
  | leaf _ => false
  | _ => true

/-- The children of a node, none for a single token. -/
def children : Node → List Node
  | leaf _ => []
  | delimited _ _ cs _ => cs
  | marked _ cs => cs

/-- The name of a node's kind. -/
def tag : Node → String
  | leaf t => t.kind.name
  | delimited b _ _ _ => b.name
  | marked _ _ => "prefixed"

/-- The text before the first child of a node. -/
def openText : Node → List Char
  | leaf t => t.text
  | delimited _ o _ _ => o.text
  | marked m _ => m.text

/-- The node with other children. A single token has none to exchange. -/
def withChildren (cs : List Node) : Node → Node
  | leaf t => leaf t
  | delimited b o _ c => delimited b o cs c
  | marked m _ => marked m cs

/-- The nodes that carry meaning. -/
def semantic (ns : List Node) : List Node := ns.filter fun n => !n.isTrivia

/-! ## Tokens in order -/

mutual

theorem tokensThen_eq (n : Node) (rest : List Token) :
    n.tokensThen rest = n.tokens ++ rest := by
  cases n with
  | leaf t => simp [tokens, tokensThen]
  | delimited b o cs c =>
    simp only [tokens, tokensThen, List.cons_append, List.cons.injEq, true_and]
    rw [listTokensThen_eq cs (c :: rest), listTokensThen_eq cs [c]]
    simp
  | marked m cs =>
    simp only [tokens, tokensThen, List.cons_append, List.cons.injEq, true_and]
    rw [listTokensThen_eq cs rest, listTokensThen_eq cs []]
    simp

theorem listTokensThen_eq (ns : List Node) (rest : List Token) :
    listTokensThen ns rest = tokensOf ns ++ rest := by
  cases ns with
  | nil => simp [tokensOf, listTokensThen]
  | cons n ns =>
    simp only [tokensOf, listTokensThen]
    rw [tokensThen_eq n, tokensThen_eq n, listTokensThen_eq ns rest]
    simp [tokensOf]

end

@[simp] theorem tokens_leaf (t : Token) : (leaf t).tokens = [t] := rfl

@[simp] theorem tokens_delimited (b : Bracket) (o c : Token) (cs : List Node) :
    (delimited b o cs c).tokens = o :: (tokensOf cs ++ [c]) := by
  simp [tokens, tokensThen, listTokensThen_eq]

@[simp] theorem tokens_marked (m : Token) (cs : List Node) :
    (marked m cs).tokens = m :: tokensOf cs := by
  simp [tokens, tokensThen, listTokensThen_eq]

@[simp] theorem tokensOf_nil : tokensOf [] = [] := rfl

@[simp] theorem tokensOf_cons (n : Node) (ns : List Node) :
    tokensOf (n :: ns) = n.tokens ++ tokensOf ns := by
  simp [tokensOf, listTokensThen, tokensThen_eq]

@[simp] theorem tokensOf_append (ns ms : List Node) :
    tokensOf (ns ++ ms) = tokensOf ns ++ tokensOf ms := by
  induction ns with
  | nil => simp
  | cons n ns ih => simp [ih]

@[simp] theorem textOf_nil : textOf [] = [] := rfl

@[simp] theorem textOf_cons (n : Node) (ns : List Node) :
    textOf (n :: ns) = n.text ++ textOf ns := by simp [textOf, text]

@[simp] theorem textOf_append (ns ms : List Node) :
    textOf (ns ++ ms) = textOf ns ++ textOf ms := by simp [textOf]

end Node

end FormEdit
