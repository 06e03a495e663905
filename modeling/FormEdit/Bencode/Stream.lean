import FormEdit.Bencode.Decode

set_option autoImplicit false

/-! # Bencode in chunks

Bytes that come in chunks are kept until they hold a whole value. Malformed bytes are reported
and stay where they are, so every later chunk is reported too. -/

namespace FormEdit.Bencode

/-- The bytes that have come and are part of no value yet. -/
structure Stream where
  buffer : List UInt8
  deriving DecidableEq, Repr

namespace Stream

/-- Before any bytes have come. -/
def empty : Stream := ⟨[]⟩

/-- Read all whole values at the front of some bytes, behind the values `done`, newest first: the
    values or the fault that ended them, and the bytes that are left. -/
def drain (done : List Value) (bs : List UInt8) : Except Fault (List Value) × Stream :=
  match bs with
  | [] => (.ok done.reverse, ⟨[]⟩)
  | b :: r =>
    match _h : read (b :: r) with
    | .done v rest => drain (v :: done) rest
    | .incomplete => (.ok done.reverse, ⟨b :: r⟩)
    | .malformed fault => (.error fault, ⟨b :: r⟩)
  termination_by bs.length
  decreasing_by exact length_lt_of_read _h

/-- Take in a chunk: the values that it completes, or the fault behind them. -/
def feed (s : Stream) (chunk : List UInt8) : Except Fault (List Value) × Stream :=
  drain [] (s.buffer ++ chunk)

/-- The bytes that wait for more, if any do. -/
def pending? (s : Stream) : Option (List UInt8) := if s.buffer.isEmpty then none else some s.buffer

end Stream

end FormEdit.Bencode
