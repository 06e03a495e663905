import FormEdit.Edit.Template

set_option autoImplicit false

/-! # Settings

What a user can choose about the file tools, the formatters, the evaluation of code and the
templates. -/

namespace FormEdit

/-- The settings. Times are in milliseconds for an evaluation and in seconds for a formatter. -/
structure Settings where
  readLimit : Int
  globLimit : Int
  grepLimit : Int
  host : String
  evalTimeout : Int
  formatTimeout : Int
  logFolder : String
  placeholder : String
  deriving DecidableEq, Repr

end FormEdit
