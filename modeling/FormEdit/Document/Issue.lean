import FormEdit.Node.Basic
import FormEdit.Position
import FormEdit.Token.Scan

set_option autoImplicit false

/-! # What is wrong with a source

An issue is a structural problem of a source with its place. Its wording is made from its cause. -/

namespace FormEdit

/-- A structural problem. A dangling mark is met by a closer, or by the end of the source when
    there is none. -/
inductive Problem where
  | mismatchedClose (opener : List Char) (expected : List Char) (found : List Char)
  | unmatchedClose (found : List Char)
  | unterminated (opener : List Char)
  | danglingMark (mark : List Char) (closer : Option (List Char))
  | lexical (literal : OpenLiteral)
  deriving DecidableEq, Repr

namespace Problem

/-- The name under which a problem is reported. -/
def kindName : Problem → String
  | mismatchedClose .. => "mismatched-close"
  | unmatchedClose .. => "unmatched-close"
  | unterminated .. => "unterminated"
  | danglingMark .. => "dangling-prefix"
  | lexical .. => "lexical"

def message : Problem → String
  | mismatchedClose opener expected found =>
    s!"Expected '{String.ofList expected}' to close '{String.ofList opener}' but found "
      ++ s!"'{String.ofList found}'"
  | unmatchedClose found => s!"Unmatched '{String.ofList found}'"
  | unterminated opener => s!"Unclosed '{String.ofList opener}' at end of input"
  | danglingMark mark (some closer) =>
    s!"'{String.ofList mark}' has no form before '{String.ofList closer}'"
  | danglingMark mark none => s!"'{String.ofList mark}' has no form before end of input"
  | lexical literal => literal.message

end Problem

/-- A problem and the position at which it shows. -/
structure Issue where
  problem : Problem
  place : Position
  deriving DecidableEq, Repr

namespace Issue

/-- The problem with its line and column. -/
def message (i : Issue) : String :=
  s!"{i.problem.message} at line {i.place.line}, column {i.place.column}"

end Issue

/-- The wording of an open literal with its place, that of the issue it makes. -/
def LexicalError.issue (e : LexicalError) : Issue := ⟨.lexical e.literal, e.place⟩

end FormEdit
