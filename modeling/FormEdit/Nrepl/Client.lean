import FormEdit.Bencode.Encode
import FormEdit.Bencode.Stream
import FormEdit.Nrepl.Evaluation
import FormEdit.Report
import FormEdit.Settings.Load

set_option autoImplicit false

/-! # Clients

A client talks to one nREPL server. It sends a request, and receives until a response says that
the evaluation is done, the time is up, the connection fails, or what comes is no bencode. Bytes
that belong to no message yet are kept from one request to the next. -/

namespace FormEdit

/-- The seconds that a client waits for an evaluation. -/
structure Patience where
  seconds : Float

namespace Patience

/-- A number of milliseconds. -/
def ofMilliseconds (ms : Float) : Patience := ⟨ms / 1000⟩

/-- The milliseconds that a value stands for. -/
def ofValue : Value → Except Failure Patience
  | .float ms => .ok (ofMilliseconds ms)
  | v =>
    match v.magnitude?, v.whole with
    | some _, .ok n =>
      match floatOfInt? n with
      | some ms => .ok (ofMilliseconds ms)
      | none => .error (.overflow "int too large to convert to float")
    | _, _ =>
      .error (.wrongKind s!"unsupported operand type(s) for /: '{v.kindName}' and 'float'")

/-- The seconds as text. -/
def text (p : Patience) : String := Decimal.generalText p.seconds

/-- The time at which a wait that begins now is over, in seconds. -/
def deadline (p : Patience) (now : Int) : Float := Network.secondsOf now + p.seconds

end Patience

/-- A client of the server at a host and port. -/
structure Client where
  host : Value
  port : Int
  patience : Patience
  connected : Bool
  stream : Bencode.Stream

/-- A client and the network that it uses, within limits. -/
structure Session where
  client : Client
  network : Network
  limits : Limits

/-- What a client does on its network; what it did before a failure stays done. -/
abbrev Exchange (α : Type) := ExceptT Failure (StateM Session) α

namespace Client

/-- A client for a host, a port and a patience in milliseconds, as values of any kind; the settings
    stand in for a host or patience that is not given. -/
def create (host port patience : Value) : Action Client := do
  let settings ← Settings.current
  let host := if host.truthy then host else .text settings.host
  let port ← match port.whole with
    | .ok n => pure n
    | .error (.wrongKind kind) => throw (.wrongKind (WholeError.wrongKind kind).message)
    | .error .infinite => throw (.overflow WholeError.infinite.message)
    | .error e => throw (.badValue e.message)
  match Patience.ofValue (if patience.isNull then .int settings.evalTimeout else patience) with
  | .error failure => throw failure
  | .ok patience => return ⟨host, port, patience, false, .empty⟩

/-- The failure of a client's connection. -/
def failure (c : Client) (reason : String) : Failure := .connection c.host c.port reason

/-- What is said when the time is up. -/
def timeoutReason (c : Client) : String := s!"timeout after {c.patience.text}s"

/-- Connect. -/
def connect : Exchange Unit := do
  let s ← get
  let (refused, network) := s.network.connect s.client.host s.client.port
  match refused with
  | some reason =>
    set { s with network }
    throw (s.client.failure s!"connection failed: {reason}")
  | none => set { s with client := { s.client with connected := true }, network }

/-- Close the connection, if there is one. -/
def close : Exchange Unit :=
  modify fun s => { s with client := { s.client with connected := false } }

/-- The failure that a value without bencode causes. -/
def encodeFailure : Bencode.EncodeError → Failure
  | .unsupported kind => .bencode (Bencode.EncodeError.unsupported kind).message
  | .unordered => .wrongKind Bencode.EncodeError.unordered.message
  | .unprintable => .badValue Bencode.EncodeError.unprintable.message
  | .unwritable x => .unwritable x

/-- Send a message. -/
def send (message : Value) : Exchange Unit := do
  let s ← get
  if !s.client.connected then throw (s.client.failure "not connected")
  match Bencode.encode s.limits.standIns message with
  | .error e => throw (encodeFailure e)
  | .ok bytes =>
    let (refused, network) := s.network.send bytes
    set { s with network }
    match refused with
    | some reason => throw (s.client.failure s!"send failed: {reason}")
    | none => return ()

/-- Why receiving ended without a done evaluation. -/
inductive Interruption where
  | timedOut
  | closed
  | failed (reason : String)
  | malformed (fault : Bencode.Fault)
  | misuse (failure : Failure)

/-- What waiting for an evaluation came to, with what is left of the network's future, the time,
    and the bytes that are part of no message yet. -/
structure Receipt where
  outcome : Except Interruption Evaluation
  coming : List NetworkEvent
  now : Int
  stream : Bencode.Stream

/-- Whether the time is up: nothing is left up to the deadline. A deadline that is not a number
    never comes. -/
def isOver (deadline : Float) (now : Int) : Bool := deadline - Network.secondsOf now ≤ 0

/-- Receive what comes until the evaluation is done. Whether the time is up is asked each time
    before waiting. -/
def receive (levels : Nat) (request : String) (deadline : Float) (now : Int)
    (stream : Bencode.Stream) (e : Evaluation) : List NetworkEvent → Receipt
  | [] => ⟨.error (if isOver deadline now then .timedOut else .closed), [], now, stream⟩
  | event :: coming =>
    if isOver deadline now then ⟨.error .timedOut, event :: coming, now, stream⟩
    else
      let now := now + event.after
      match event.arrival with
      | .timedOut => ⟨.error .timedOut, coming, now, stream⟩
      | .failed reason => ⟨.error (.failed reason), coming, now, stream⟩
      | .data [] => ⟨.error .closed, coming, now, stream⟩
      | .data (b :: bytes) =>
        match stream.feed (b :: bytes) with
        | (.error fault, stream) => ⟨.error (.malformed fault), coming, now, stream⟩
        | (.ok messages, stream) =>
          match takeResponses levels request e messages with
          | .error failure => ⟨.error (.misuse failure), coming, now, stream⟩
          | .ok (.done e) => ⟨.ok e, coming, now, stream⟩
          | .ok (.going e) => receive levels request deadline now stream e coming

/-- The failure that an interruption is reported as. -/
def interruptionFailure (c : Client) : Interruption → Failure
  | .timedOut => c.failure c.timeoutReason
  | .closed => c.failure "connection closed by server"
  | .failed reason => c.failure s!"receive failed: {reason}"
  | .malformed fault => c.failure s!"protocol error: {fault.message}"
  | .misuse failure => failure

/-- The request to evaluate code, in a name space if one is given. -/
def evalRequest (request : String) (code space : Value) : Value :=
  .ofFields ([("op", .text "eval"), ("code", code), ("id", .text request)]
    ++ (if space.truthy then [("ns", space)] else []))

/-- Evaluate code. -/
def eval (request : String) (code space : Value) : Exchange Evaluation := do
  send (evalRequest request code space)
  let s ← get
  let deadline := s.client.patience.deadline s.network.now
  let r := receive s.limits.levels request deadline s.network.now s.client.stream .empty
    s.network.coming
  set { s with
    client := { s.client with stream := r.stream }
    network := { s.network with coming := r.coming, now := r.now } }
  match r.outcome with
  | .ok e => return e
  | .error i => throw (interruptionFailure s.client i)

end Client

/-- Let a client do something on the network of the workspace. -/
def Exchange.run {α : Type} (x : Exchange α) (c : Client) : Action (Except Failure α × Client) := do
  let w ← get
  let (outcome, s) := (ExceptT.run x).run ⟨c, w.network, w.limits⟩
  set { w with network := s.network }
  return (outcome, s.client)

/-- A failed use of a server: its kind, and the host and port if they were used. -/
structure ServerError where
  kind : String
  message : String
  server : Option (Value × Int)

namespace ServerError

def report (e : ServerError) : Report :=
  ⟨e.kind, e.message,
    match e.server with
    | some (host, port) => [("host", host), ("port", .int port)]
    | none => []⟩

end ServerError

/-- Evaluate code on a server, and give the transcript. Failures of the connection are reported. -/
def evalCode (code port host patience : Value) : Action (Except ServerError String) := do
  let client ← Client.create host port patience
  let request := (← get).requestName
  let (outcome, _) ← Exchange.run
    (do Client.connect; Client.eval request code .null) client
  match outcome with
  | .ok e => return .ok e.transcript
  | .error (.connection host port reason) =>
    return .error ⟨"eval-failed", (Failure.connection host port reason).message, some (host, port)⟩
  | .error failure => throw failure

end FormEdit
