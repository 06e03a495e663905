import FormEdit.Number.Binary
import FormEdit.Value.Basic

set_option autoImplicit false

/-! # The network

Connections are made to a host and a port; data is sent and received. Time passes only while data
is waited for. The time is kept in milliseconds and read in seconds. -/

namespace FormEdit

/-- What waiting for data comes to. Data of no bytes means that the other side has closed. -/
inductive Arrival where
  | data (bytes : List UInt8)
  | timedOut
  | failed (reason : String)
  deriving DecidableEq, Repr

/-- What comes next from the other side, and how long it takes. -/
structure NetworkEvent where
  after : Int
  arrival : Arrival
  deriving DecidableEq, Repr

/-- The network: why no connection can be made or nothing can be sent, if that is so, the ports
    that accept when not all do, what comes next, the time, and what was connected to and sent,
    newest first. -/
structure Network where
  connectFailure : Option String
  openPorts : Option (List Int)
  sendFailure : Option String
  coming : List NetworkEvent
  now : Int
  connections : List (Value × Int)
  sent : List (List UInt8)

namespace Network

/-- The reading of the clock, in seconds, at a number of milliseconds. -/
def secondsOf (now : Int) : Float := (floatOfInt? now).getD 0 / 1000

/-- What is said of a port that does not accept. -/
def refusal : String := "refused"

/-- A network in which nothing accepts. -/
def closed : Network := ⟨some refusal, none, none, [], 0, [], []⟩

/-- Try to connect. The answer is why it failed, if it did. -/
def connect (n : Network) (host : Value) (port : Int) : Option String × Network :=
  let failure :=
    match n.connectFailure with
    | some reason => some reason
    | none =>
      match n.openPorts with
      | some ports => if ports.contains port then none else some refusal
      | none => none
  (failure, { n with connections := (host, port) :: n.connections })

/-- Send bytes. The answer is why it failed, if it did. -/
def send (n : Network) (bytes : List UInt8) : Option String × Network :=
  match n.sendFailure with
  | some reason => (some reason, n)
  | none => (none, { n with sent := bytes :: n.sent })

/-- Wait for data. When nothing more comes, the other side has closed. -/
def receive (n : Network) : Arrival × Network :=
  match n.coming with
  | [] => (.data [], n)
  | e :: coming => (e.arrival, { n with coming, now := n.now + e.after })

end Network

end FormEdit
