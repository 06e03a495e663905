import FormEdit.Number.Decimal
import FormEdit.Number.Numeral
import FormEdit.Settings.Item

set_option autoImplicit false

/-! # Settings files

A settings file is TOML: tables under their headers, arrays of tables, keys with points between
their names, text, numbers, truth values, moments, arrays and inline tables. Every table is declared
once, and every key has one value. A file is read statement by statement into the tables that came
before. A whole number of too many decimal digits is a fault of its own; the first fault ends the
reading. -/

namespace FormEdit.Toml

/-- What was read, or the fault that it is not what the rules say. -/
def orMalformed {α : Type} : Option α → Except Numeral.Fault α
  | some a => .ok a
  | none => .error .malformed

/-! ## Blanks -/

def isSpace (c : Char) : Bool := c = ' ' || c = '\t'

def skipSpaces (t : List Char) : List Char := t.dropWhile isSpace

/-- Whether a character may not stand in a line. -/
def isControl (c : Char) : Bool := (c.toNat < 32 && c ≠ '\t') || c.toNat = 127

/-- Drop a comment up to the end of its line; none if a control character stands in it. -/
def skipComment (t : List Char) : Option (List Char) :=
  match t with
  | '#' :: r =>
    let body := r.takeWhile (· ≠ '\n')
    if body.any isControl then none else some (r.dropWhile (· ≠ '\n'))
  | _ => some t

/-- Drop blanks, comments and line ends, looking at no more than `fuel` lines. -/
def skipFill : Nat → List Char → Option (List Char)
  | 0, t => some t
  | fuel + 1, t =>
    match skipComment (skipSpaces t) with
    | some ('\n' :: r) => skipFill fuel r
    | rest => rest

/-! ## Text -/

/-- The character with a code that is written in base sixteen. -/
def charOfHex (digits : List Char) : Option Char :=
  if digits.all fun c => c.isDigit || ('a' ≤ c.toLower && c.toLower ≤ 'f') then
    let n := digits.foldl (fun n c =>
      16 * n + (if c.isDigit then c.toNat - 48 else c.toLower.toNat - 87)) 0
    if n < 0xd800 || (0xe000 ≤ n && n < 0x110000) then some (Char.ofNat n) else none
  else none

/-- What an escape of one letter stands for. -/
def escaped? (c : Char) : Option Char :=
  if c = 'b' then some '\x08'
  else if c = 't' then some '\t'
  else if c = 'n' then some '\n'
  else if c = 'f' then some '\x0c'
  else if c = 'r' then some '\r'
  else if c = '"' then some '"'
  else if c = '\\' then some '\\'
  else none

/-- Read quoted text with escapes behind its opening mark, or behind its three opening marks if it
    may go over several `lines`. The characters `done` were read already, newest first, and blanks
    and line ends that come next are dropped if the text is `folding`. -/
def readQuoted (lines folding : Bool) (done : List Char) :
    List Char → Option (List Char × List Char)
  | [] => none
  | '"' :: r =>
    if lines then
      match r with
      | '"' :: '"' :: behind => some (done.reverse, behind)
      | _ => readQuoted lines false ('"' :: done) r
    else some (done.reverse, r)
  | '\\' :: 'u' :: a :: b :: c :: d :: r =>
    match charOfHex [a, b, c, d] with
    | some x => readQuoted lines false (x :: done) r
    | none => none
  | '\\' :: 'U' :: a :: b :: c :: d :: e :: f :: g :: h :: r =>
    match charOfHex [a, b, c, d, e, f, g, h] with
    | some x => readQuoted lines false (x :: done) r
    | none => none
  | '\\' :: c :: r =>
    if lines && (isSpace c || c = '\n') then
      match skipSpaces (c :: r) with
      | '\n' :: _ => readQuoted lines true done r
      | _ => none
    else
      match escaped? c with
      | some x => readQuoted lines false (x :: done) r
      | none => none
  | c :: r =>
    if folding && (isSpace c || c = '\n') then readQuoted lines true done r
    else if isControl c && !(lines && c = '\n') then none
    else readQuoted lines false (c :: done) r

/-- Read literal text behind its opening mark. -/
def readLiteral (r : List Char) : Option (List Char × List Char) :=
  let body := r.takeWhile (· ≠ '\'')
  match r.drop body.length with
  | [] => none
  | _ :: rest => if body.any isControl then none else some (body, rest)

/-- Read literal text over several lines, up to its three closing marks. -/
def readLiteralLines (done : List Char) : List Char → Option (List Char × List Char)
  | [] => none
  | '\'' :: '\'' :: '\'' :: r => some (done.reverse, r)
  | c :: r => if isControl c && c ≠ '\n' then none else readLiteralLines (c :: done) r

/-- Take up to two marks behind three closing ones into the text. -/
def takeMarks (mark : Char) : List Char × List Char → List Char × List Char
  | (body, a :: b :: r) =>
    if a ≠ mark then (body, a :: b :: r)
    else if b ≠ mark then (body ++ [a], b :: r)
    else (body ++ [a, b], r)
  | (body, [a]) => if a = mark then (body ++ [a], []) else (body, [a])
  | (body, []) => (body, [])

/-- Drop a line end right behind opening marks. -/
def dropLineEnd : List Char → List Char
  | '\n' :: r => r
  | r => r

/-- Read text of any of the four kinds, with its opening mark. -/
def readText : List Char → Option (List Char × List Char)
  | '"' :: '"' :: '"' :: r => (readQuoted true false [] (dropLineEnd r)).map (takeMarks '"')
  | '"' :: r => readQuoted false false [] r
  | '\'' :: '\'' :: '\'' :: r => (readLiteralLines [] (dropLineEnd r)).map (takeMarks '\'')
  | '\'' :: r => readLiteral r
  | _ => none

/-! ## Numbers -/

/-- Take digits with single underscores between them from the front. -/
def takeDigits (isDigit : Char → Bool) : List Char → List Char × List Char
  | '_' :: c :: r =>
    if isDigit c then
      let (ds, rest) := takeDigits isDigit r
      (c :: ds, rest)
    else ([], '_' :: c :: r)
  | c :: r =>
    if isDigit c then
      let (ds, rest) := takeDigits isDigit r
      (c :: ds, rest)
    else ([], c :: r)
  | [] => ([], [])

/-- Take digits that do not begin with an underscore; none if there are none. -/
def takeGroup (isDigit : Char → Bool) (t : List Char) : Option (List Char × List Char) :=
  match t with
  | '_' :: _ => none
  | t =>
    match takeDigits isDigit t with
    | ([], _) => none
    | found => some found

/-- What follows a word. -/
def behind? (word : String) (t : List Char) : Option (List Char) :=
  if word.toList.isPrefixOf t then some (t.drop word.length) else none

/-- A whole number in another base than ten. -/
def readBase (base : Nat) (t : List Char) : Option (Item × List Char) :=
  let digit (c : Char) : Nat :=
    if c.isDigit then c.toNat - 48
    else if 'a' ≤ c.toLower && c.toLower ≤ 'f' then c.toLower.toNat - 87
    else 16
  (takeGroup (fun c => digit c < base) t).map fun (ds, r) =>
    (.int (ds.foldl (fun n c => base * n + digit c) 0 : Nat), r)

/-- Take a fraction from the front, with its point. -/
def takeFraction (t : List Char) : List Char × List Char :=
  match t with
  | '.' :: r =>
    match takeGroup Char.isDigit r with
    | some (ds, r) => ('.' :: ds, r)
    | none => ([], t)
  | t => ([], t)

/-- Take an exponent from the front, with its letter. -/
def takeExponent (t : List Char) : List Char × List Char :=
  match t with
  | [] => ([], t)
  | e :: r =>
    if e = 'e' || e = 'E' then
      let (sign, r) := match r with
        | '+' :: r => (['+'], r)
        | '-' :: r => (['-'], r)
        | r => ([], r)
      match takeGroup Char.isDigit r with
      | some (ds, r) => ('e' :: (sign ++ ds), r)
      | none => ([], t)
    else ([], t)

/-- Read a decimal number behind its sign: whole unless a fraction or an exponent follows. A zero in
    front stands alone. -/
def readDecimal (negative : Bool) (t : List Char) : Except Numeral.Fault (Item × List Char) := do
  let (ds, rest) ←
    match t with
    | '0' :: r => .ok (['0'], r)
    | t => orMalformed (takeGroup Char.isDigit t)
  let (fraction, rest) := takeFraction rest
  let (exponent, rest) := takeExponent rest
  if fraction.isEmpty && exponent.isEmpty then
    if Numeral.maxDigits < ds.length then .error (.tooLong ds.length)
    else
      let n := Numeral.value (ds.map fun c => c.toNat - 48)
      return (.int (if negative then -(n : Int) else n), rest)
  else
    let x ← orMalformed (Decimal.read? (ds ++ (fraction ++ exponent)))
    return (.float (if negative then -x else x), rest)

/-- The number that is above all others. -/
def infinity : Float := Float.ofBits 0x7ff0000000000000

/-- Read a decimal number, infinity or no number behind a sign. -/
def readSigned (negative : Bool) (t : List Char) : Except Numeral.Fault (Item × List Char) :=
  let sign (x : Float) : Float := if negative then -x else x
  match behind? "inf" t, behind? "nan" t with
  | some r, _ => .ok (.float (sign infinity), r)
  | none, some r => .ok (.float (0 / 0), r)
  | none, none => readDecimal negative t

/-- Read a number. -/
def readNumber (t : List Char) : Except Numeral.Fault (Item × List Char) :=
  let based :=
    match t with
    | '0' :: 'x' :: r => readBase 16 r
    | '0' :: 'o' :: r => readBase 8 r
    | '0' :: 'b' :: r => readBase 2 r
    | _ => none
  match based, t with
  | some found, _ => .ok found
  | none, '+' :: r => readSigned false r
  | none, '-' :: r => readSigned true r
  | none, t => readSigned false t

/-- Read a moment of the calendar, a truth value or a number. -/
def readScalar (t : List Char) : Except Numeral.Fault (Item × List Char) :=
  match behind? "true" t, behind? "false" t, Moment.read? t with
  | some r, _, _ => .ok (.bool true, r)
  | none, some r, _ => .ok (.bool false, r)
  | none, none, some (m, r) => if m.isValid then .ok (.moment m, r) else .error .malformed
  | none, none, none => readNumber t

/-! ## Keys -/

def isKeyChar (c : Char) : Bool := c.isAlphanum || c = '_' || c = '-'

/-- Read one name of a key. -/
def readName (t : List Char) : Option (String × List Char) :=
  match t with
  | '"' :: r => (readQuoted false false [] r).map fun (s, r) => (String.ofList s, r)
  | '\'' :: r => (readLiteral r).map fun (s, r) => (String.ofList s, r)
  | t =>
    let name := t.takeWhile isKeyChar
    if name.isEmpty then none else some (String.ofList name, t.dropWhile isKeyChar)

/-- Read a key of no more than `fuel` names with points between them, and the blanks behind. -/
def readKey : Nat → List Char → Option (List String × List Char)
  | 0, _ => none
  | fuel + 1, t =>
    match readName t with
    | none => none
    | some (name, r) =>
      match skipSpaces r with
      | '.' :: r => (readKey fuel (skipSpaces r)).map fun (names, r) => (name :: names, r)
      | r => some ([name], r)

/-- Read a key up to the mark between it and its value, and the blanks behind that. -/
def readField (t : List Char) : Option (List String × List Char) :=
  match readKey t.length t with
  | some (path, '=' :: r) => some (path, skipSpaces r)
  | _ => none

/-! ## Tables -/

/-- Put an item under a name, over what stood there. -/
def put (name : String) (i : Item) (entries : Table) : Table :=
  if entries.any fun e => e.1 == name then
    entries.map fun e => if e.1 == name then (name, i) else e
  else entries ++ [(name, i)]

/-- Change the table that names lead to; tables on the way that are not there are made. The way may
    go through the last table of an array when `through` says so. -/
def change (through : Bool) (f : Table → Option Table) : List String → Table → Option Table
  | [], entries => f entries
  | name :: rest, entries =>
    match entries.lookup name with
    | none => (change through f rest []).map fun inner => put name (.table inner) entries
    | some (.table inner) =>
      (change through f rest inner).map fun inner => put name (.table inner) entries
    | some (.array items) =>
      match through, items.getLast? with
      | true, some (.table inner) =>
        (change through f rest inner).map fun inner =>
          put name (.array (items.dropLast ++ [.table inner])) entries
      | _, _ => none
    | some _ => none

/-- Add a field to the table that the names before its own lead to, unless it is there. -/
def addField (through : Bool) (path : List String) (i : Item) (entries : Table) : Option Table :=
  match path.getLast? with
  | none => none
  | some name =>
    let add (inner : Table) : Option Table :=
      if (inner.lookup name).isSome then none else some (inner ++ [(name, i)])
    change through add path.dropLast entries

/-- Add an empty table to the array that a path leads to, which is made if it is not there. -/
def addTable (path : List String) (entries : Table) : Option Table :=
  match path.getLast? with
  | none => none
  | some name =>
    let add (inner : Table) : Option Table :=
      match inner.lookup name with
      | none => some (inner ++ [(name, .array [.table []])])
      | some (.array items) => some (put name (.array (items ++ [.table []])) inner)
      | some _ => none
    change true add path.dropLast entries

/-- Whether a path leads to or through one of the places. -/
def isWithin (places : List (List String)) (path : List String) : Bool :=
  places.any fun place => place.isPrefixOf path

/-- Whether an item has items of its own. -/
def isContainer : Item → Bool
  | .array _ | .table _ => true
  | _ => false

mutual

/-- Read an item with no more than `fuel` levels and items. -/
def readItem : Nat → List Char → Except Numeral.Fault (Item × List Char)
  | 0, _ => .error .malformed
  | fuel + 1, t =>
    match t with
    | '[' :: r => do
      let r ← orMalformed (skipFill r.length r)
      match r with
      | ']' :: r => return (.array [], r)
      | r => readItems fuel [] r
    | '{' :: r =>
      match skipSpaces r with
      | '}' :: r => .ok (.table [], r)
      | r => readPairs fuel [] [] r
    | t =>
      match t with
      | '"' :: _ | '\'' :: _ => do
        let (s, r) ← orMalformed (readText t)
        return (.text (String.ofList s), r)
      | t => readScalar t

/-- Read the items of an array behind the items `done`, newest first. -/
def readItems : Nat → List Item → List Char → Except Numeral.Fault (Item × List Char)
  | 0, _, _ => .error .malformed
  | fuel + 1, done, t => do
    let (i, r) ← readItem fuel t
    let r ← orMalformed (skipFill r.length r)
    match r with
    | ']' :: r => return (.array (i :: done).reverse, r)
    | ',' :: r =>
      let r ← orMalformed (skipFill r.length r)
      match r with
      | ']' :: r => return (.array (i :: done).reverse, r)
      | r => readItems fuel (i :: done) r
    | _ => .error .malformed

/-- Read the fields of an inline table behind its `entries`. What is under the `closed` paths cannot
    be changed. -/
def readPairs : Nat → List (List String) → Table → List Char →
    Except Numeral.Fault (Item × List Char)
  | 0, _, _, _ => .error .malformed
  | fuel + 1, closed, entries, t => do
    let (path, r) ← orMalformed (readField t)
    let (i, r) ← readItem fuel r
    if isWithin closed path then .error .malformed
    else
      let entries ← orMalformed (addField false path i entries)
      match skipSpaces r with
      | '}' :: r => return (.table entries, r)
      | ',' :: r =>
        readPairs fuel (if isContainer i then path :: closed else closed) entries (skipSpaces r)
      | _ => .error .malformed

end

/-- Tables under construction: their entries, the path of the table whose fields come, the paths
    that no header may declare again, those that cannot be changed, and those that the keys of this
    table have opened, which the next header closes for declaration. -/
structure Tables where
  entries : Table
  header : List String
  declared : List (List String)
  closed : List (List String)
  opening : List (List String)

namespace Tables

/-- Before any statement. -/
def empty : Tables := ⟨[], [], [], [], []⟩

/-- Declare a table. -/
def declare (t : Tables) (path : List String) : Option Tables :=
  let declared := t.opening ++ t.declared
  if declared.contains path || isWithin t.closed path then none
  else
    (change true some path t.entries).map fun entries =>
      { t with entries, header := path, declared := path :: declared, opening := [] }

/-- Declare the next table of an array. What was said of the table before it does not count for this
    one. -/
def append (t : Tables) (path : List String) : Option Tables :=
  if isWithin t.closed path then none
  else
    let others (paths : List (List String)) := paths.filter fun p => !path.isPrefixOf p
    (addTable path t.entries).map fun entries =>
      { entries, header := path, declared := path :: others (t.opening ++ t.declared),
        closed := others t.closed, opening := [] }

/-- The beginnings of a path that are longer than `n` names, the whole path left out. -/
def inner (n : Nat) (path : List String) : List (List String) :=
  (List.range path.length).filterMap fun k => if n < k then some (path.take k) else none

/-- Set a field of the table that was declared last. -/
def set (t : Tables) (key : List String) (i : Item) : Option Tables :=
  let path := t.header ++ key
  let opened := inner t.header.length path
  if opened.any t.declared.contains || isWithin t.closed path.dropLast then none
  else
    (addField true path i t.entries).map fun entries =>
      { t with entries, opening := opened ++ t.opening,
               closed := if isContainer i then path :: t.closed else t.closed }

end Tables

/-- Read a header or a field. -/
def readStatement (tables : Tables) (t : List Char) : Except Numeral.Fault (Tables × List Char) :=
  match t with
  | '[' :: '[' :: r =>
    match readKey r.length (skipSpaces r) with
    | some (path, ']' :: ']' :: r) => (orMalformed (tables.append path)).map (·, r)
    | _ => .error .malformed
  | '[' :: r =>
    match readKey r.length (skipSpaces r) with
    | some (path, ']' :: r) => (orMalformed (tables.declare path)).map (·, r)
    | _ => .error .malformed
  | t => do
    let (key, r) ← orMalformed (readField t)
    let (i, r) ← readItem (r.length + 1) r
    return (← orMalformed (tables.set key i), r)

/-- Read no more than `fuel` statements, each on a line of its own. -/
def readStatements : Nat → Tables → List Char → Except Numeral.Fault Tables
  | 0, tables, _ => .ok tables
  | fuel + 1, tables, t => do
    let t ← orMalformed (skipFill t.length t)
    if t.isEmpty then return tables
    let (tables, r) ← readStatement tables t
    let r ← orMalformed (skipComment (skipSpaces r))
    match r with
    | [] => return tables
    | '\n' :: r => readStatements fuel tables r
    | _ => .error .malformed

/-- Make a carriage return before a line feed part of the line end. -/
def dropReturns : List Char → List Char
  | '\r' :: '\n' :: r => '\n' :: dropReturns r
  | c :: r => c :: dropReturns r
  | [] => []

/-- The table that a settings file holds. -/
def read (t : List Char) : Except Numeral.Fault Table :=
  let t := dropReturns t
  (readStatements (t.length + 1) .empty t).map Tables.entries

end FormEdit.Toml
