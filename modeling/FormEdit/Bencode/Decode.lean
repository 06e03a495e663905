import FormEdit.Number.Numeral
import FormEdit.Text.Utf8
import FormEdit.Value.Order

set_option autoImplicit false

/-! # Reading bencode

Bytes are read piece by piece with a stack of the containers that are still open. Reading a value
ends with the value and the bytes behind it, or finds that bytes are missing, or finds bytes that
no value begins with. What is missing is told apart from what is wrong: a number without its end
and a string without all its bytes are missing something, whatever they hold. -/

namespace FormEdit.Bencode

/-- Why bytes are no bencode, with the place at which it shows. -/
inductive Fault where
  | badInteger (place : Nat)
  | badLength (place : Nat)
  | strayEnd (place : Nat)
  | keyWithoutValue (place : Nat)
  | badMarker (byte : UInt8) (place : Nat)
  | keyNotText (kind : String)
  | truncated
  | trailing (place : Nat)
  deriving DecidableEq, Repr

def Fault.message : Fault → String
  | badInteger place => s!"Invalid integer at {place}"
  | badLength place => s!"Invalid string length at {place}"
  | strayEnd place => s!"Unexpected end marker at {place}"
  | keyWithoutValue place => s!"Dict key without value at {place}"
  | badMarker byte place =>
    s!"Invalid bencode marker {String.ofList (quotedBytes [byte])} at {place}"
  | keyNotText kind => s!"Dict key must be a string, got {kind}"
  | truncated => "Truncated bencode data"
  | trailing place => s!"Trailing data after position {place}"

/-! ## Pieces -/

/-- A piece of bencode: a whole number or string, or the begin or end of a container. -/
inductive Piece where
  | value (v : Value)
  | list
  | dict
  | finish

/-- Why no piece is read: bytes are missing, or they are wrong. -/
inductive Stop where
  | incomplete
  | malformed (fault : Fault)
  deriving DecidableEq, Repr

/-- Split bytes before the first occurrence of `mark`; the mark belongs to neither part. -/
def splitAtMark (mark : UInt8) (bs : List UInt8) : Option (List UInt8 × List UInt8) :=
  match bs.dropWhile (· != mark) with
  | [] => none
  | _ :: r => some (bs.takeWhile (· != mark), r)

/-- A byte string as a value: text where it is UTF-8. -/
def ofBytes (bs : List UInt8) : Value :=
  match Utf8.decode bs with
  | .ok t => .text (String.ofList t)
  | .error _ => .bytes bs

/-- Whether a byte is an ASCII digit. -/
def isDigit (b : UInt8) : Bool := 48 ≤ b && b ≤ 57

/-- Read the piece that starts at `place` with the byte `b` and goes on in `r`. The number counts
    the bytes of `r` that it takes. -/
def piece (place : Nat) (b : UInt8) (r : List UInt8) : Except Stop (Piece × Nat) :=
  if b = 105 then
    match splitAtMark 101 r with
    | none => .error .incomplete
    | some (digits, _) =>
      match Numeral.ofBytes digits with
      | .error _ => .error (.malformed (.badInteger place))
      | .ok n => .ok (.value (.int n), digits.length + 1)
  else if isDigit b then
    match splitAtMark 58 (b :: r) with
    | none => .error .incomplete
    | some (digits, behind) =>
      match Numeral.ofBytes digits with
      | .error _ => .error (.malformed (.badLength place))
      | .ok n =>
        if behind.length < n.toNat then .error .incomplete
        else .ok (.value (ofBytes (behind.take n.toNat)), digits.length + n.toNat)
  else if b = 108 then .ok (.list, 0)
  else if b = 100 then .ok (.dict, 0)
  else if b = 101 then .ok (.finish, 0)
  else .error (.malformed (.badMarker b place))

/-! ## Containers -/

/-- A container that is still open: a list with its items, newest first, or a dictionary with its
    entries and the key whose value comes next. -/
inductive Frame where
  | list (items : List Value)
  | dict (entries : List (Value × Value)) (key : Option String)

/-- Where reading stands between two pieces: behind a whole value, or inside containers. -/
inductive Progress where
  | whole (v : Value)
  | inside (frames : List Frame)

/-- Give a value to the innermost container. -/
def deliver (v : Value) : List Frame → Except Fault Progress
  | [] => .ok (.whole v)
  | .list items :: fs => .ok (.inside (.list (v :: items) :: fs))
  | .dict entries (some k) :: fs =>
    .ok (.inside (.dict (Value.insert entries (.text k) v) none :: fs))
  | .dict entries none :: fs =>
    match v with
    | .text k => .ok (.inside (.dict entries (some k) :: fs))
    | .bytes bs => .ok (.inside (.dict entries (some (String.ofList (Utf8.decodeLossy bs))) :: fs))
    | v => .error (.keyNotText v.kindName)

/-- Take in a piece that stands at `place`. -/
def take (place : Nat) (p : Piece) (frames : List Frame) : Except Fault Progress :=
  match p with
  | .value v => deliver v frames
  | .list => .ok (.inside (.list [] :: frames))
  | .dict => .ok (.inside (.dict [] none :: frames))
  | .finish =>
    match frames with
    | [] => .error (.strayEnd place)
    | .list items :: fs => deliver (.list items.reverse) fs
    | .dict entries none :: fs => deliver (.dict entries) fs
    | .dict _ (some _) :: _ => .error (.keyWithoutValue place)

/-- What reading one value from the front of some bytes comes to. -/
inductive Reading where
  | done (v : Value) (rest : List UInt8)
  | incomplete
  | malformed (fault : Fault)

/-- Read on at `place` inside of open containers. -/
def readFrom (place : Nat) (frames : List Frame) : List UInt8 → Reading
  | [] => .incomplete
  | b :: r =>
    match piece place b r with
    | .error .incomplete => .incomplete
    | .error (.malformed fault) => .malformed fault
    | .ok (p, n) =>
      match take place p frames with
      | .error fault => .malformed fault
      | .ok (.whole v) => .done v (r.drop n)
      | .ok (.inside frames) => readFrom (place + n + 1) frames (r.drop n)
  termination_by bs => bs.length
  decreasing_by simp only [List.length_drop, List.length_cons]; omega

/-- Read one value from the front of some bytes. -/
def read (bs : List UInt8) : Reading := readFrom 0 [] bs

/-- A value that was read has taken at least one byte. -/
theorem length_lt_of_readFrom {place : Nat} {frames : List Frame} {bs rest : List UInt8} {v : Value}
    (h : readFrom place frames bs = .done v rest) : rest.length < bs.length := by
  fun_induction readFrom place frames bs with
  | case1 => simp at h
  | case2 => simp at h
  | case3 => simp at h
  | case4 => simp at h
  | case5 =>
    cases h
    simp only [List.length_drop, List.length_cons]
    omega
  | case6 place frames b r p n _ frames' _ ih =>
    have := ih h
    simp only [List.length_drop, List.length_cons] at this ⊢
    omega

theorem length_lt_of_read {bs rest : List UInt8} {v : Value} (h : read bs = .done v rest) :
    rest.length < bs.length := length_lt_of_readFrom h

/-- The one value that bytes hold, with nothing behind it. -/
def decode (bs : List UInt8) : Except Fault Value :=
  match read bs with
  | .incomplete => .error .truncated
  | .malformed fault => .error fault
  | .done v [] => .ok v
  | .done _ rest => .error (.trailing (bs.length - rest.length))

end FormEdit.Bencode
