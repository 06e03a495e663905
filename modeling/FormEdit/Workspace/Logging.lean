import FormEdit.Text.Occurrence

set_option autoImplicit false

/-! # Where messages go

A message has a level. The console takes messages from a chosen level on, the log file those from
the level of plain information on. Where messages go is decided once; after that only a reset
makes it open to decision again, and until then what was decided stays. -/

namespace FormEdit

/-- The levels of messages by their names, in order of their weight. -/
def logLevels : List (String × Nat) :=
  [("TRACE", 5), ("DEBUG", 10), ("INFO", 20), ("SUCCESS", 25), ("WARNING", 30), ("ERROR", 40),
   ("CRITICAL", 50)]

/-- The weight of a level. -/
def levelWeight? (name : String) : Option Nat := logLevels.lookup name

/-- The weight from which on messages go to the log file. -/
def fileWeight : Nat := 20

/-- Where messages go: the weight from which on the console takes them, whether the log file
    does, and what has reached the file, newest first. -/
structure Logging where
  configured : Bool
  console : Option Nat
  toFile : Bool
  written : List String
  deriving DecidableEq, Repr

namespace Logging

/-- Messages go nowhere, and that is decided. -/
def silent : Logging := ⟨true, none, false, []⟩

/-- Make where messages go open to decision. -/
def reset (l : Logging) : Logging := { l with configured := false }

/-- Whether there is a place where messages go. -/
def goesAnywhere (l : Logging) : Bool := l.console.isSome || l.toFile

/-- Send a message. The answer says whether the console has taken it. -/
def send (l : Logging) (weight : Nat) (message : String) : Bool × Logging :=
  let onConsole := l.console.any (· ≤ weight)
  (onConsole,
    if l.toFile && fileWeight ≤ weight then { l with written := message :: l.written } else l)

/-- Whether a text stands in a message that has reached the log file. -/
def hasWritten (l : Logging) (text : String) : Bool :=
  l.written.any fun message => containsText text.toList message.toList

end Logging

end FormEdit
