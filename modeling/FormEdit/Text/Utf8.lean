import FormEdit.Text.Quoted

set_option autoImplicit false

/-! # UTF-8

Every character has bytes, but a text that is given to the program may also hold surrogates that
are half of no pair, which have none. A character that has no other use stands for each of them
(`StandIns`), and a text that holds one of these cannot be written.

Reading is strict: overlong forms, surrogates and code points beyond the last are refused, and a
refusal says where it stands, how many bytes it spans and why. A lenient reading puts one
replacement character in the place of each refused span. So no text that is read holds a
surrogate. -/

namespace FormEdit.Utf8

/-- The bytes of a text. -/
def encode (t : List Char) : List UInt8 := t.flatMap String.utf8EncodeChar

/-- The characters that stand for surrogates in the texts that are given, each with the number of
    its surrogate among all surrogates. -/
abbrev StandIns := List (Char × Fin 2048)

/-- Why a text cannot be written: the place of its first surrogate, how many stand there one behind
    the other, and the number of the first among all surrogates. -/
structure Unwritable where
  place : Nat
  span : Nat
  surrogate : Fin 2048
  deriving DecidableEq, Repr

/-- The wording of what cannot be written: one surrogate is named by its code point, several by
    their first and last place. -/
def Unwritable.message (x : Unwritable) : String :=
  if x.span ≤ 1 then
    let hex := String.ofList (hexDigits 4 (0xd800 + x.surrogate.val))
    s!"'utf-8' codec can't encode character '\\u{hex}' in position {x.place}: "
      ++ "surrogates not allowed"
  else
    s!"'utf-8' codec can't encode characters in position {x.place}-{x.place + x.span - 1}: "
      ++ "surrogates not allowed"

/-- The first surrogates of a text of which `place` characters lie behind. -/
def unwritableFrom? (u : StandIns) (place : Nat) : List Char → Option Unwritable
  | [] => none
  | c :: r =>
    match u.lookup c with
    | some surrogate =>
      some ⟨place, (r.takeWhile fun d => (u.lookup d).isSome).length + 1, surrogate⟩
    | none => unwritableFrom? u (place + 1) r

/-- The bytes of a text that may hold surrogates, or the first of these. -/
def write (u : StandIns) (t : List Char) : Except Unwritable (List UInt8) :=
  match unwritableFrom? u 0 t with
  | some x => .error x
  | none => .ok (encode t)

/-- Why bytes are no character. -/
inductive Flaw where
  | badStart
  | badContinuation
  | truncated
  deriving DecidableEq, Repr

/-- The first flaw of a byte string: the byte it starts with, its place and how many bytes it
    spans. -/
structure Fault where
  flaw : Flaw
  byte : UInt8
  place : Nat
  span : Nat
  deriving DecidableEq, Repr

def Flaw.reason : Flaw → String
  | .badStart => "invalid start byte"
  | .badContinuation => "invalid continuation byte"
  | .truncated => "unexpected end of data"

/-- The wording of a fault: one byte is named by its value, several by their first and last
    place. -/
def Fault.message (f : Fault) : String :=
  if f.span ≤ 1 then
    let hex := String.ofList (hexDigits 2 f.byte.toNat)
    s!"'utf-8' codec can't decode byte 0x{hex} in position {f.place}: {f.flaw.reason}"
  else
    s!"'utf-8' codec can't decode bytes in position {f.place}-{f.place + f.span - 1}: {f.flaw.reason}"

/-- Whether a byte continues a character. -/
def isContinuation (b : UInt8) : Bool := 0x80 ≤ b && b ≤ 0xbf

/-- Whether `b₂` may follow the leading byte `b₁`: this is where overlong forms, surrogates and
    numbers beyond the last code point are kept out. -/
def mayFollow (b₁ b₂ : UInt8) : Bool :=
  if b₁ = 0xe0 then 0xa0 ≤ b₂ && b₂ ≤ 0xbf
  else if b₁ = 0xed then 0x80 ≤ b₂ && b₂ ≤ 0x9f
  else if b₁ = 0xf0 then 0x90 ≤ b₂ && b₂ ≤ 0xbf
  else if b₁ = 0xf4 then 0x80 ≤ b₂ && b₂ ≤ 0x8f
  else isContinuation b₂

/-- The payload of a continuation byte. -/
def payload (b : UInt8) : Nat := b.toNat % 64

/-- Read one character that starts with the byte `b` and goes on in `r`. The number with a
    character counts the bytes of `r` that it takes; the number with a flaw counts the bytes that
    the flaw spans, `b` included. -/
def readChar (b : UInt8) (r : List UInt8) : Except (Flaw × Nat) (Char × Nat) :=
  if b < 0x80 then .ok (Char.ofNat b.toNat, 0)
  else if b < 0xc2 || 0xf4 < b then .error (.badStart, 1)
  else
    match r with
    | [] => .error (.truncated, 1)
    | b₂ :: r₂ =>
      if !mayFollow b b₂ then .error (.badContinuation, 1)
      else if b < 0xe0 then .ok (Char.ofNat (b.toNat % 32 * 64 + payload b₂), 1)
      else
        match r₂ with
        | [] => .error (.truncated, 2)
        | b₃ :: r₃ =>
          if !isContinuation b₃ then .error (.badContinuation, 2)
          else if b < 0xf0 then
            .ok (Char.ofNat ((b.toNat % 16 * 64 + payload b₂) * 64 + payload b₃), 2)
          else
            match r₃ with
            | [] => .error (.truncated, 3)
            | b₄ :: _ =>
              if !isContinuation b₄ then .error (.badContinuation, 3)
              else
                .ok (Char.ofNat
                  (((b.toNat % 8 * 64 + payload b₂) * 64 + payload b₃) * 64 + payload b₄), 3)

/-- Read all of a byte string, of which `place` bytes lie behind and gave `done`, newest first. -/
def decodeFrom (place : Nat) (done : List Char) : List UInt8 → Except Fault (List Char)
  | [] => .ok done.reverse
  | b :: r =>
    match readChar b r with
    | .ok (c, n) => decodeFrom (place + n + 1) (c :: done) (r.drop n)
    | .error (flaw, span) => .error ⟨flaw, b, place, span⟩
  termination_by bs => bs.length
  decreasing_by simp only [List.length_drop, List.length_cons]; omega

/-- The text of a byte string, or its first flaw. -/
def decode (bs : List UInt8) : Except Fault (List Char) := decodeFrom 0 [] bs

/-- Read all of a byte string with replacement, behind the characters `done`, newest first. -/
def decodeLossyFrom (done : List Char) : List UInt8 → List Char
  | [] => done.reverse
  | b :: r =>
    match readChar b r with
    | .ok (c, n) => decodeLossyFrom (c :: done) (r.drop n)
    | .error (_, span) => decodeLossyFrom ('\ufffd' :: done) (r.drop (span - 1))
  termination_by bs => bs.length
  decreasing_by all_goals (simp only [List.length_drop, List.length_cons]; omega)

/-- The text of a byte string, with one replacement character for each refused span. -/
def decodeLossy (bs : List UInt8) : List Char := decodeLossyFrom [] bs

end FormEdit.Utf8
