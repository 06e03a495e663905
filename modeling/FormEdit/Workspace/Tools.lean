import FormEdit.Value.Basic

set_option autoImplicit false

/-! # Programs outside

Formatters and searchers are programs that run outside. What is known of them here is which are
there, how each run ends, and which runs there have been. -/

namespace FormEdit

/-- How the run of a program ends. -/
inductive RunEnd where
  | finished (code : Int) (output errors : String)
  | timedOut
  | refused (reason : String)
  deriving DecidableEq, Repr

/-- A run of a program: its name and arguments, what it reads, and the seconds that it is given.
    Arguments are kept as they are given, also when they are no text. -/
structure ProgramRun where
  arguments : List Value
  input : Option String
  timeout : Value

/-- The programs outside: the names that are found, how the runs to come end, and the runs that
    were, newest first. A run beyond those finishes without output. -/
structure Programs where
  found : List String
  coming : List RunEnd
  done : List ProgramRun

namespace Programs

def none : Programs := ⟨[], [], []⟩

/-- Run a program. -/
def run (p : Programs) (r : ProgramRun) : RunEnd × Programs :=
  match p.coming with
  | [] => (.finished 0 "" "", { p with done := r :: p.done })
  | e :: coming => (e, { p with coming, done := r :: p.done })

/-- Running a program records the run. -/
theorem done_run (p : Programs) (r : ProgramRun) : (p.run r).2.done = r :: p.done := by
  unfold run; split <;> rfl

end Programs

end FormEdit
