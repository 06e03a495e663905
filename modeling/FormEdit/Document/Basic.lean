import FormEdit.Document.Issue
import FormEdit.Node.Basic
import FormEdit.Position
import FormEdit.Text.Quoted
import FormEdit.Token.Scan

set_option autoImplicit false

/-! # Documents

A document is the list of top-level nodes of a source. It is built from tokens with a stack of the
forms that are still open: a closer completes the innermost bracket, and a completed form is given
to the innermost open form, which it may complete in turn when that is a mark. -/

namespace FormEdit

/-- The top-level nodes of a source, and the source that was read. After an edit `source` is still
    what was read. -/
structure Document where
  nodes : List Node
  source : List Char

namespace Document

/-- The text of a document. -/
def text (d : Document) : List Char := Node.textOf d.nodes

/-- The top-level forms. -/
def forms (d : Document) : List Node := Node.semantic d.nodes

/-- The one-line description of a document. -/
def label (d : Document) : String := s!"Document({d.nodes.length} top-level nodes)"

end Document

/-- A form that is still open, with its children so far, newest first. A mark knows how many more
    forms it applies to, the next one not counted. -/
inductive Frame where
  | bracket (opener : Token) (children : List Node)
  | mark (token : Token) (more : Nat) (children : List Node)

/-- A tree under construction: the open forms, innermost first, and the top-level nodes so far,
    newest first. -/
structure Builder where
  frames : List Frame
  top : List Node

namespace Builder

def empty : Builder := ⟨[], []⟩

/-- Add a node that completes nothing. -/
def addTrivia (n : Node) : Builder → Builder
  | ⟨[], top⟩ => ⟨[], n :: top⟩
  | ⟨.bracket o cs :: fs, top⟩ => ⟨.bracket o (n :: cs) :: fs, top⟩
  | ⟨.mark m more cs :: fs, top⟩ => ⟨.mark m more (n :: cs) :: fs, top⟩

/-- Give a completed form to the innermost open form. A mark that has all its forms is completed
    and given on. -/
def attach (n : Node) : List Frame → List Node → Builder
  | [], top => ⟨[], n :: top⟩
  | .bracket o cs :: fs, top => ⟨.bracket o (n :: cs) :: fs, top⟩
  | .mark m (more + 1) cs :: fs, top => ⟨.mark m more (n :: cs) :: fs, top⟩
  | .mark m 0 cs :: fs, top => attach (.marked m (n :: cs).reverse) fs top

/-- Give a completed form to the tree. -/
def add (n : Node) (b : Builder) : Builder := attach n b.frames b.top

end Builder

/-- Why no document was built. An opener that opens no known form cannot be closed; source that
    was scanned has none. -/
inductive BuildError where
  | issue (i : Issue)
  | unknownOpener (text : List Char)
  deriving DecidableEq, Repr

namespace BuildError

def message : BuildError → String
  | issue i => i.message
  | unknownOpener text => String.ofList (quoted text)

end BuildError

namespace Builder

/-- Take in a closer that stands at `line` and `column`. -/
def close (t : Token) (line column : Int) : Builder → Except BuildError Builder
  | ⟨[], _⟩ => .error (.issue ⟨.unmatchedClose t.text, ⟨t.offset, line, column⟩⟩)
  | ⟨.mark m _ _ :: _, _⟩ =>
    .error (.issue ⟨.danglingMark m.text (some t.text), ⟨t.offset, line, column⟩⟩)
  | ⟨.bracket o cs :: fs, top⟩ =>
    match Bracket.ofOpening? o.text with
    | none => .error (.unknownOpener o.text)
    | some b =>
      if t.text = b.closing then .ok (attach (.delimited b o cs.reverse t) fs top)
      else
        .error (.issue ⟨.mismatchedClose o.text b.closing t.text, ⟨t.offset, line, column⟩⟩)

/-- Take in one token that stands at `line` and `column`. -/
def push (t : Token) (line column : Int) (b : Builder) : Except BuildError Builder :=
  match t.kind with
  | .opener => .ok ⟨.bracket t [] :: b.frames, b.top⟩
  | .mark => .ok ⟨.mark t (t.arity - 1) [] :: b.frames, b.top⟩
  | .closer => b.close t line column
  | .comment | .whitespace | .newline => .ok (b.addTrivia (.leaf t))
  | .atom | .string | .char => .ok (b.add (.leaf t))

/-- Take in tokens in order. The line and column are those of the text that they make up. -/
def run (b : Builder) (here : Position) : List Token → Except BuildError (Builder × Position)
  | [] => .ok (b, here)
  | t :: ts =>
    match b.push t here.line here.column with
    | .error e => .error e
    | .ok b => b.run (here.advance t.text) ts

/-- The document of a tree, if no form is left open at the end of the source. -/
def finish (source : List Char) (b : Builder) (here : Position) : Except BuildError Document :=
  let place : Position := { here with offset := source.length }
  match b.frames with
  | [] => .ok ⟨b.top.reverse, source⟩
  | .mark m _ _ :: _ => .error (.issue ⟨.danglingMark m.text none, place⟩)
  | .bracket o _ :: _ => .error (.issue ⟨.unterminated o.text, place⟩)

end Builder

namespace Document

/-- The document of a list of tokens that were read from `source`. -/
def ofTokens (ts : List Token) (source : List Char) : Except BuildError Document :=
  match Builder.empty.run Position.start ts with
  | .error e => .error e
  | .ok (b, here) => b.finish source here

/-- The document of a source. -/
def parse (source : List Char) : Except BuildError Document :=
  match tokenize source with
  | .error e => .error (.issue e.issue)
  | .ok ts => ofTokens ts source

/-- The forms at the top of a source, none when it is not well formed. -/
def formsOf? (source : List Char) : Option (List Node) := (parse source).toOption.map forms

end Document

/-- Whether every bracket, mark and literal of a source is completed. -/
def isBalanced (source : List Char) : Bool := (Document.parse source).isOk

/-- The number of top-level forms of a source that is well formed. -/
def countForms (source : List Char) : Option Nat := (Document.formsOf? source).map List.length

end FormEdit
