import FormEdit.Proofs.Bencode.Written
import FormEdit.Proofs.Nrepl.Receive
import FormEdit.Proofs.Workspace.Keep

set_option autoImplicit false

/-! # Evaluating code on a server

A client connects, writes one request, sends it and receives. Each of the steps may end the
exchange, connecting and sending only with a failure of the connection (`Client.outcomeOn_eq`).
Evaluating code gives the
transcript, or reports a failure of the connection; any other failure is passed on
(`perform_evalCode`). -/

namespace FormEdit

open FormEdit.Action

namespace Exchange

variable {α β : Type}

/-- What an exchange comes to on a session, and the session that it leaves. -/
def perform (x : Exchange α) (s : Session) : Except Failure α × Session :=
  StateT.run (ExceptT.run x) s

theorem perform_bind (x : Exchange α) (f : α → Exchange β) (s : Session) :
    perform (x >>= f) s =
      match perform x s with
      | (.ok a, s') => perform (f a) s'
      | (.error e, s') => (.error e, s') := by
  show StateT.run (ExceptT.bindCont f (perform x s).1) (perform x s).2 = _
  cases perform x s with
  | mk r s' => cases r <;> rfl

theorem perform_get_bind (f : Session → Exchange β) (s : Session) :
    perform (MonadState.get >>= f) s = perform (f s) s := rfl

end Exchange

open Exchange (perform)

namespace Client

variable {c : Client} {n : Network} {l : Limits} {message : Value} {bytes : List UInt8}
  {request code : String}

/-! ## The steps of an exchange -/

theorem perform_connect (c : Client) (n : Network) (l : Limits) :
    perform connect ⟨c, n, l⟩ =
      match n.connect c.host c.port with
      | (some reason, network) =>
        (.error (c.failure s!"connection failed: {reason}"), ⟨c, network, l⟩)
      | (none, network) => (.ok (), ⟨{ c with connected := true }, network, l⟩) := by
  unfold connect
  rw [Exchange.perform_get_bind]
  cases n.connect c.host c.port with
  | mk refused network => cases refused <;> rfl

theorem perform_send (hc : c.connected = true)
    (hm : Bencode.encode l.standIns message = .ok bytes) :
    perform (send message) ⟨c, n, l⟩ =
      match n.send bytes with
      | (some reason, network) => (.error (c.failure s!"send failed: {reason}"), ⟨c, network, l⟩)
      | (none, network) => (.ok (), ⟨c, network, l⟩) := by
  unfold send
  rw [Exchange.perform_get_bind, if_neg (by simp [hc])]
  simp only [hm]
  cases n.send bytes with
  | mk refused network => cases refused <;> rfl

/-- A message that cannot be written is not sent. -/
theorem perform_send_error {x : Bencode.EncodeError} (hc : c.connected = true)
    (hm : Bencode.encode l.standIns message = .error x) :
    perform (send message) ⟨c, n, l⟩ = (.error (encodeFailure x), ⟨c, n, l⟩) := by
  unfold send
  rw [Exchange.perform_get_bind, if_neg (by simp [hc])]
  simp only [hm]
  rfl

/-- A request to evaluate code can be written unless it holds surrogates. -/
theorem codable_evalRequest (request code : String) :
    (evalRequest request (.text code) .null).Codable := by
  have hnames : ["op", "code", "id"].Nodup := by decide
  refine .dict [("op", .text "eval"), ("code", .text code), ("id", .text request)] hnames ?_
  simp [Value.Codable.text]

/-- What was received, with an interruption as the failure that it is reported as. -/
def received (c : Client) : Except Interruption Evaluation → Except Failure Evaluation
  | .ok e => .ok e
  | .error i => .error (interruptionFailure c i)

/-- A request that is written and sent is answered by what is received. -/
theorem perform_eval (hc : c.connected = true) :
    (perform (eval request (.text code) .null) ⟨c, n, l⟩).1 =
      match Bencode.encode l.standIns (evalRequest request (.text code) .null), n.sendFailure with
      | .error x, _ => .error (encodeFailure x)
      | .ok _, some reason => .error (c.failure s!"send failed: {reason}")
      | .ok _, none =>
        c.received (receive l.levels request (c.patience.deadline n.now) n.now c.stream .empty
          n.coming).outcome := by
  unfold eval
  cases hm : Bencode.encode l.standIns (evalRequest request (.text code) .null) with
  | error x => rw [Exchange.perform_bind, perform_send_error hc hm]
  | ok bytes =>
    rw [Exchange.perform_bind, perform_send hc hm, Network.send]
    cases n.sendFailure with
    | some reason => rfl
    | none =>
      dsimp only
      rw [Exchange.perform_get_bind]
      dsimp only
      generalize receive l.levels request (c.patience.deadline n.now) n.now c.stream .empty
        n.coming = r
      obtain ⟨outcome, coming, now, stream⟩ := r
      cases outcome <;> rfl

/-! ## Whole exchanges -/

/-- What connecting and evaluating code come to. -/
def outcomeOn (n : Network) (l : Limits) (request code : String) (c : Client) :
    Except Failure Evaluation :=
  (perform (do connect; eval request (.text code) .null) ⟨c, n, l⟩).1

/-- A connection is refused, the request is not written or not sent, or something is received. -/
theorem outcomeOn_eq (n : Network) (l : Limits) (request code : String) (c : Client) :
    c.outcomeOn n l request code =
      match (n.connect c.host c.port).1,
        Bencode.encode l.standIns (evalRequest request (.text code) .null), n.sendFailure with
      | some reason, _, _ => .error (c.failure s!"connection failed: {reason}")
      | none, .error x, _ => .error (encodeFailure x)
      | none, .ok _, some reason => .error (c.failure s!"send failed: {reason}")
      | none, .ok _, none =>
        c.received (receive l.levels request (c.patience.deadline n.now) n.now c.stream .empty
          n.coming).outcome := by
  rw [outcomeOn, Exchange.perform_bind, perform_connect]
  have hnetwork : (n.connect c.host c.port).2 =
    { n with connections := (c.host, c.port) :: n.connections } := rfl
  cases hconnect : n.connect c.host c.port with
  | mk refused network =>
    rw [hconnect] at hnetwork
    cases hnetwork
    cases refused with
    | some reason => rfl
    | none =>
      have hconnected : ({ c with connected := true } : Client).connected = true := rfl
      refine (perform_eval hconnected).trans ?_
      dsimp only
      cases Bencode.encode l.standIns (evalRequest request (.text code) .null) with
      | error x => rfl
      | ok bytes => cases n.sendFailure <;> rfl

end Client

/-- What is reported of an exchange: failures of the connection are, others are passed on. -/
def reportExchange : Except Failure Evaluation → Except Failure (Except ServerError String)
  | .ok e => .ok (.ok e.transcript)
  | .error (.connection host port reason) =>
    .ok (.error ⟨"eval-failed", (Failure.connection host port reason).message, some (host, port)⟩)
  | .error failure => .error failure

/-- Once there is a client, evaluating code comes to what the exchange comes to. -/
theorem perform_evalCode {w : Workspace} {host port patience : Value} {c : Client} (code : String)
    (hc : ((Client.create host port patience).perform w).1 = .ok c) :
    ((evalCode (.text code) port host patience).perform w).1 =
      reportExchange (c.outcomeOn w.network w.limits w.requestName code) := by
  show Meets (evalCode (.text code) port host patience) w fun r _ => r = _
  have hcreate := (Client.create_meets host port patience w).1
  refine Meets.bind_ok (R := fun w' => ∃ s, w' = { w with settings := s }) ⟨hc, hcreate⟩ ?_
  -- Making the client may have read the settings, but it leaves the network as it was.
  rintro _ ⟨s, rfl⟩
  refine Meets.get_bind ?_
  refine Meets.bind
    (Q := fun r _ => ∃ c', r = .ok (c.outcomeOn w.network w.limits w.requestName code, c'))
    ⟨_, rfl⟩ ?_ fun e w' ⟨_, h⟩ => by cases h
  rintro _ w' ⟨c', ⟨⟩⟩
  dsimp only
  cases c.outcomeOn w.network w.limits w.requestName code with
  | ok e => rfl
  | error failure => cases failure <;> rfl

end FormEdit
