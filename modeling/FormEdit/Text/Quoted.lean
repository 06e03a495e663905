import FormEdit.Text.Printable

set_option autoImplicit false

/-! # Quoted text

Text quoted for a message stands between apostrophes, or between quotation marks when it holds an
apostrophe and no quotation mark. Control characters and others that do not print are written by
number. Bytes are quoted by the same rule with all bytes beyond ASCII written by number. -/

namespace FormEdit

/-- The digits of `n` in base sixteen, at least `width` of them. -/
def hexDigits (width n : Nat) : List Char :=
  let ds := Nat.toDigits 16 n
  List.replicate (width - ds.length) '0' ++ ds

/-- The mark put round quoted text. -/
def quoteMark (t : List Char) : Char :=
  if t.contains '\'' && !t.contains '"' then '"' else '\''

/-- An escape that holds for text and for bytes. -/
def escapeCommon? (mark c : Char) : Option (List Char) :=
  if c = mark || c = '\\' then some ['\\', c]
  else if c = '\t' then some ['\\', 't']
  else if c = '\n' then some ['\\', 'n']
  else if c = '\r' then some ['\\', 'r']
  else none

/-- A character as it stands in quoted text. -/
def escapeChar (mark c : Char) : List Char :=
  match escapeCommon? mark c with
  | some e => e
  | none =>
    if isPrintable c then [c]
    else if c.toNat ≤ 0xff then '\\' :: 'x' :: hexDigits 2 c.toNat
    else if c.toNat ≤ 0xffff then '\\' :: 'u' :: hexDigits 4 c.toNat
    else '\\' :: 'U' :: hexDigits 8 c.toNat

/-- Text between quotes, with what does not print escaped. -/
def quoted (t : List Char) : List Char :=
  let mark := quoteMark t
  mark :: (t.flatMap (escapeChar mark) ++ [mark])

/-- Bytes between quotes after the letter `b`, with what is not printable ASCII escaped. -/
def quotedBytes (bs : List UInt8) : List Char :=
  let t := bs.map fun b => Char.ofNat b.toNat
  let mark := quoteMark t
  let escape (c : Char) : List Char :=
    match escapeCommon? mark c with
    | some e => e
    | none =>
      if 32 ≤ c.toNat && c.toNat < 127 then [c] else '\\' :: 'x' :: hexDigits 2 c.toNat
  'b' :: mark :: (t.flatMap escape ++ [mark])

example : String.ofList (quotedBytes [255, 120]) = "b'\\xffx'" := by decide

end FormEdit
