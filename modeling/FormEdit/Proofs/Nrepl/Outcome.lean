import FormEdit.Proofs.Bencode.Messages
import FormEdit.Proofs.Bencode.ReadBack
import FormEdit.Proofs.Nrepl.Exchange
import FormEdit.Proofs.Nrepl.Status

set_option autoImplicit false

/-! # What evaluating code comes to

Whatever a server sends, in whatever chunks, and however the connection ends, evaluating code comes
to what the first response that decides says, and without one to a report of kind `eval-failed`
(`evalCode_settles`). A misuse of a status is not reported but passed on. So are a request with
surrogates, which cannot be written, and a response that nests deeper than can be shown, whatever
its status is. -/

namespace FormEdit

open FormEdit.Action

/-! ## Clients and their servers -/

namespace Client

open Bencode (Stream)

/-- The request by which code is evaluated in a workspace. -/
def requestFor (w : Workspace) (code : String) : Value :=
  evalRequest w.requestName (.text code) .null

theorem encode_requestFor_ne_error {w : Workspace} {code : String}
    (h : (requestFor w code).Writable w.limits.standIns) (x : Bencode.EncodeError) :
    Bencode.encode w.limits.standIns (requestFor w code) ≠ .error x := by
  rw [requestFor, Bencode.encode_eq_written (codable_evalRequest _ _) h]
  nofun

/-- Whether a client is connected and the request for code is written and sent. -/
structure Reaches (c : Client) (w : Workspace) (code : String) : Prop where
  accepted : (w.network.connect c.host c.port).1 = none
  written : (requestFor w code).Writable w.limits.standIns
  sent : w.network.sendFailure = none

/-- The messages that a client of a network gets while there is time left. -/
def messagesOn (c : Client) (n : Network) : List Value :=
  (c.stream.feedAll (arrivals (c.patience.deadline n.now) n.now n.coming).chunks).messages

/-- Whether a network brings a client messages in time and before all else: their bytes one behind
    the other, cut into any chunks. -/
def Gets (c : Client) (n : Network) (messages : List Value) : Prop :=
  ∃ (codes chunks : List (List UInt8)) (events later : List NetworkEvent),
    codes.map Bencode.decode = messages.map .ok ∧ chunks.flatten = codes.flatten ∧
    n.coming = events ++ later ∧
    Brings (c.patience.deadline n.now) n.now events chunks

theorem Gets.exists_messagesOn {c : Client} {n : Network} {messages : List Value}
    (h : c.Gets n messages) (hc : c.stream = .empty) :
    ∃ more, c.messagesOn n = messages ++ more := by
  obtain ⟨codes, chunks, events, later, hcodes, hchunks, hcoming, hbrings⟩ := h
  obtain ⟨ds, hds⟩ := hbrings.exists_chunks later
  rw [messagesOn, hc, hcoming, hds]
  exact Stream.exists_messages_of_decode hcodes hchunks ds

/-- Messages that are written and come without delay, in any chunks, come in time if there is
    any. -/
theorem Gets.of_written {c : Client} {n : Network} {messages : List Value}
    {chunks : List (List UInt8)}
    (hmessages : ∀ m ∈ messages, Bencode.ReadsAs (Bencode.written m) m)
    (hchunks : chunks.flatten = (messages.map Bencode.written).flatten)
    (hne : ∀ chunk ∈ chunks, chunk ≠ [])
    (hcoming : n.coming = chunks.map fun chunk => ⟨0, .data chunk⟩)
    (hover : isOver (c.patience.deadline n.now) n.now = false) : c.Gets n messages := by
  have hcodes : (messages.map Bencode.written).map Bencode.decode = messages.map .ok := by
    rw [List.map_map]
    exact List.map_congr_left fun m hm => (hmessages m hm).decode
  have hbrings := Brings.of_no_delay hne hover
  rw [← hcoming] at hbrings
  exact ⟨_, chunks, n.coming, [], hcodes, hchunks, (List.append_nil _).symm, hbrings⟩

/-- What decides an evaluation among messages that come in time decides it. -/
theorem Gets.course_eq {c : Client} {n : Network} {messages : List Value} {name : String}
    {levels : Nat} {decided : Except Failure Course} (h : c.Gets n messages)
    (hc : c.stream = .empty)
    (hcourse : Evaluation.empty.course levels (answersAmong name messages) = decided)
    (hdecided : ∀ e, decided ≠ .ok (.going e)) :
    Evaluation.empty.course levels (answersAmong name (c.messagesOn n)) = decided := by
  obtain ⟨more, hmore⟩ := h.exists_messagesOn hc
  rw [hmore, answersAmong_append, Evaluation.course_append, hcourse]
  split
  · next e => exact absurd rfl (hdecided e)
  · rfl

theorem isNormal_of_mem_messagesOn (c : Client) (n : Network) :
    ∀ message ∈ c.messagesOn n, message.IsNormal := Bencode.isNormal_of_mem_feedAll _ _

/-- What ends a wait is reported as a failure of the connection. -/
theorem exists_reason_of_arrivals (c : Client) (deadline : Float) (now : Int)
    (coming : List NetworkEvent) (fault : Option Bencode.Fault) :
    ∃ reason, interruptionFailure c (endOf fault (arrivals deadline now coming).ending) =
      .connection c.host c.port reason := by
  cases fault with
  | some fault => exact ⟨_, rfl⟩
  | none =>
    show ∃ reason, interruptionFailure c (arrivals deadline now coming).ending = _
    induction coming generalizing now with
    | nil =>
      rw [arrivals]
      split <;> exact ⟨_, rfl⟩
    | cons event coming ih =>
      rw [arrivals]
      split
      · exact ⟨_, rfl⟩
      · split
        · exact ⟨_, rfl⟩
        · exact ⟨_, rfl⟩
        · exact ⟨_, rfl⟩
        · exact ih _

/-- What an exchange comes to by what the responses made of the evaluation, and by why the
    connection ended if they let it go on. -/
def settled (c : Client) (reason : String) : Except Failure Course → Except Failure Evaluation
  | .error failure => .error failure
  | .ok (.done e) => .ok e
  | .ok (.going _) => .error (.connection c.host c.port reason)

variable {c : Client} {w : Workspace} {code : String}

/-- A client that reaches its server gets what the responses make of the evaluation. -/
theorem outcomeOn_of_reaches (h : c.Reaches w code) :
    ∃ reason, c.outcomeOn w.network w.limits w.requestName code =
      c.settled reason (Evaluation.empty.course w.limits.levels
        (answersAmong w.requestName (c.messagesOn w.network))) := by
  let n := w.network
  obtain ⟨reason, hreason⟩ := exists_reason_of_arrivals c (c.patience.deadline n.now) n.now n.coming
    (c.stream.feedAll (arrivals (c.patience.deadline n.now) n.now n.coming).chunks).fault
  have hwritten := Bencode.encode_eq_written (codable_evalRequest w.requestName code) h.written
  refine ⟨reason, ?_⟩
  rw [outcomeOn_eq, h.accepted, hwritten, h.sent]
  dsimp only
  rw [receive_outcome, takeResponses_eq_course]
  show c.received (conclude _ (Evaluation.empty.course w.limits.levels
    (answersAmong w.requestName (c.messagesOn w.network)))) = _
  -- Why the connection ended shows only where the responses leave the evaluation going on.
  cases Evaluation.empty.course w.limits.levels
    (answersAmong w.requestName (c.messagesOn w.network)) with
  | error failure => rfl
  | ok course =>
    cases course with
    | done e => rfl
    | going e => exact congrArg Except.error hreason

/-- A client that is connected fails if its request cannot be written. -/
theorem outcomeOn_of_unwritable {x : Utf8.Unwritable}
    (haccepted : (w.network.connect c.host c.port).1 = none)
    (hx : Bencode.encode w.limits.standIns (requestFor w code) = .error (.unwritable x)) :
    c.outcomeOn w.network w.limits w.requestName code = .error (.unwritable x) := by
  rw [requestFor] at hx
  rw [outcomeOn_eq, haccepted, hx]
  rfl

/-- A client that is not connected, or whose request is not sent, gets a failure of the
    connection. -/
theorem outcomeOn_of_not_reaches (h : ¬ c.Reaches w code)
    (hwritten : (w.network.connect c.host c.port).1 = none →
      (requestFor w code).Writable w.limits.standIns) :
    ∃ reason, c.outcomeOn w.network w.limits w.requestName code =
      .error (.connection c.host c.port reason) := by
  rw [outcomeOn_eq]
  cases haccepted : (w.network.connect c.host c.port).1 with
  | some reason => exact ⟨_, rfl⟩
  | none =>
    have hwritable := hwritten haccepted
    rw [Bencode.encode_eq_written (codable_evalRequest w.requestName code) hwritable]
    cases hsent : w.network.sendFailure with
    | some reason => exact ⟨_, rfl⟩
    | none => exact absurd ⟨haccepted, hwritable, hsent⟩ h

end Client

/-! ## Evaluating code -/

variable {w : Workspace} {host port patience : Value} {c : Client} {code : String} {levels : Nat}
  {response : EvalResponse} {f : Failure}

/-- What a response fails at is passed on. -/
theorem reportExchange_of_verdict (h : verdictOf levels response = .error f) :
    reportExchange (.error f) = .error f := by
  rcases verdictOf_eq_error_iff.1 h with ⟨-, rfl⟩ | ⟨-, hmisuse⟩
  · rfl
  · obtain ⟨message, rfl⟩ := responseIsDone_wrongKind hmisuse
    rfl

/-- Once the server is reached, evaluating code comes to what the responses make of it. -/
theorem evalCode_of_reaches (hc : ((Client.create host port patience).perform w).1 = .ok c)
    (hreach : c.Reaches w code) :
    let r := ((evalCode (.text code) port host patience).perform w).1
    let course := Evaluation.empty.course w.limits.levels
      (answersAmong w.requestName (c.messagesOn w.network))
    (∀ t, r = .ok (.ok t) ↔ ∃ e, course = .ok (.done e) ∧ e.transcript = t) ∧
      (∀ f, r = .error f ↔ course = .error f) ∧
      ∀ e, r = .ok (.error e) → e.kind = "eval-failed" ∧ e.server = some (c.host, c.port) := by
  intro r course
  obtain ⟨reason, houtcome⟩ := Client.outcomeOn_of_reaches hreach
  have hr : r = reportExchange (c.settled reason course) := by
    rw [← houtcome]
    exact perform_evalCode code hc
  cases hcourse : course with
  | error f =>
    obtain ⟨before, response, hfirst⟩ := Evaluation.course_eq_error_iff.1 hcourse
    have hr : r = .error f := by
      rw [hr, hcourse]
      exact reportExchange_of_verdict hfirst.decides
    simp [hr]
  | ok course' =>
    cases course' with
    | done e =>
      have hr : r = .ok (.ok e.transcript) := by
        rw [hr, hcourse]
        rfl
      simp [hr]
    | going e =>
      have hr : r = reportExchange (.error (.connection c.host c.port reason)) := by
        rw [hr, hcourse]
        rfl
      refine ⟨fun t => ?_, fun f => ?_, ?_⟩
      · simp [hr, reportExchange]
      · simp [hr, reportExchange]
      · intro failure hfailure
        rw [hr] at hfailure
        rw [← Except.error.inj (Except.ok.inj hfailure)]
        exact ⟨rfl, rfl⟩

/-- A request that cannot be written is not reported. -/
theorem evalCode_of_unwritable {x : Utf8.Unwritable}
    (hc : ((Client.create host port patience).perform w).1 = .ok c)
    (haccepted : (w.network.connect c.host c.port).1 = none)
    (hx : Bencode.encode w.limits.standIns (Client.requestFor w code) = .error (.unwritable x)) :
    ((evalCode (.text code) port host patience).perform w).1 = .error (.unwritable x) := by
  rw [perform_evalCode code hc, Client.outcomeOn_of_unwritable haccepted hx]
  rfl

theorem evalCode_of_not_reaches (hc : ((Client.create host port patience).perform w).1 = .ok c)
    (hreach : ¬ c.Reaches w code)
    (hwritten : (w.network.connect c.host c.port).1 = none →
      (Client.requestFor w code).Writable w.limits.standIns) :
    ∃ e, ((evalCode (.text code) port host patience).perform w).1 = .ok (.error e) ∧
      e.kind = "eval-failed" ∧ e.server = some (c.host, c.port) := by
  obtain ⟨reason, houtcome⟩ := Client.outcomeOn_of_not_reaches hreach hwritten
  have hr : ((evalCode (.text code) port host patience).perform w).1 =
      reportExchange (.error (.connection c.host c.port reason)) := by
    rw [perform_evalCode code hc, houtcome]
  exact ⟨_, hr, rfl, rfl⟩

theorem FirstVerdict.isNormal {name : String} {before : List EvalResponse}
    {verdict : Except Failure Bool}
    (h : FirstVerdict levels (answersAmong name (c.messagesOn w.network)) before response verdict) :
    (Value.dict response).IsNormal := by
  obtain ⟨behind, heq⟩ := h.place
  have hmem : response ∈ answersAmong name (c.messagesOn w.network) := by
    rw [heq]
    exact List.mem_append_right _ List.mem_cons_self
  exact c.isNormal_of_mem_messagesOn w.network _ (mem_answersAmong.1 hmem).1

/-- The messages that come in time end an evaluation if the first response that decides can be shown
    and has a status that says so. -/
theorem course_messagesOn_eq_done_iff {name t : String} :
    (∃ e, Evaluation.empty.course levels (answersAmong name (c.messagesOn w.network)) =
        .ok (.done e) ∧ e.transcript = t) ↔
      ∃ before response, FirstVerdict levels (answersAmong name (c.messagesOn w.network)) before
          response (.ok true) ∧
        t = transcriptOf (before ++ [response]) ∧ canShow levels response = true ∧
        ∃ status, Value.lookup "status" response = some status ∧ EndsEvaluation status := by
  constructor
  · rintro ⟨e, hcourse, rfl⟩
    obtain ⟨before, response, hfirst, rfl⟩ := Evaluation.course_eq_done_iff.1 hcourse
    obtain ⟨hshow, hdecides⟩ := verdictOf_eq_true_iff.1 hfirst.decides
    exact ⟨before, response, hfirst, rfl, hshow,
      (responseIsDone_eq_true_iff hfirst.isNormal).1 hdecides⟩
  · rintro ⟨before, response, hfirst, ht, -⟩
    exact ⟨_, Evaluation.course_eq_done_iff.2 ⟨before, response, hfirst, rfl⟩, ht.symm⟩

/-- The messages that come in time break an evaluation off if the first response that decides
    cannot be shown, or has a status that nothing can be looked for in. -/
theorem course_messagesOn_eq_error_iff {name : String} :
    Evaluation.empty.course levels (answersAmong name (c.messagesOn w.network)) = .error f ↔
      ∃ before response, FirstVerdict levels (answersAmong name (c.messagesOn w.network)) before
          response (.error f) ∧
        (canShow levels response = false ∧ f = .tooDeep ∨
          canShow levels response = true ∧ ∃ status,
            Value.lookup "status" response = some status ∧ BreaksEvaluation status f) := by
  rw [Evaluation.course_eq_error_iff]
  constructor
  · rintro ⟨before, response, hfirst⟩
    refine ⟨before, response, hfirst, ?_⟩
    rw [← responseIsDone_eq_error_iff hfirst.isNormal]
    exact verdictOf_eq_error_iff.1 hfirst.decides
  · rintro ⟨before, response, hfirst, -⟩
    exact ⟨before, response, hfirst⟩

/-- Once there is a client, evaluating code gives a transcript exactly if the server is reached and
    the first response to the request that decides can be shown and has a status that says so, in a
    list or in another way. It fails without a report exactly if the request cannot be written, or
    the first response that decides nests deeper than can be shown, or nothing can be looked for in
    its status. Otherwise, whatever is sent or not sent, a failure of kind `eval-failed` is
    reported. -/
theorem evalCode_settles (code : String)
    (hc : ((Client.create host port patience).perform w).1 = .ok c) :
    let r := ((evalCode (.text code) port host patience).perform w).1
    let levels := w.limits.levels
    let answers := answersAmong w.requestName (c.messagesOn w.network)
    (∀ t, r = .ok (.ok t) ↔ c.Reaches w code ∧ ∃ before response,
      FirstVerdict levels answers before response (.ok true) ∧
        t = transcriptOf (before ++ [response]) ∧ canShow levels response = true ∧
        ∃ status, Value.lookup "status" response = some status ∧ EndsEvaluation status) ∧
    (∀ f, r = .error f ↔
      ((w.network.connect c.host c.port).1 = none ∧ ∃ x, f = .unwritable x ∧
        Bencode.encode w.limits.standIns (Client.requestFor w code) = .error (.unwritable x)) ∨
      c.Reaches w code ∧ ∃ before response,
        FirstVerdict levels answers before response (.error f) ∧
          (canShow levels response = false ∧ f = .tooDeep ∨
            canShow levels response = true ∧ ∃ status,
              Value.lookup "status" response = some status ∧ BreaksEvaluation status f)) ∧
    ∀ e, r = .ok (.error e) → e.kind = "eval-failed" ∧ e.server = some (c.host, c.port) := by
  intro r levels answers
  by_cases hreach : c.Reaches w code
  · obtain ⟨hdone, herror, hreport⟩ := evalCode_of_reaches hc hreach
    refine ⟨fun t => ?_, fun f => ?_, hreport⟩
    · rw [hdone, course_messagesOn_eq_done_iff]
      exact ⟨fun h => ⟨hreach, h⟩, And.right⟩
    · rw [herror, course_messagesOn_eq_error_iff]
      constructor
      · intro h
        exact .inr ⟨hreach, h⟩
      · rintro (⟨-, x, -, hx⟩ | ⟨-, h⟩)
        · exact absurd hx (Client.encode_requestFor_ne_error hreach.written _)
        · exact h
  · by_cases hx : (w.network.connect c.host c.port).1 = none ∧
      ¬ (Client.requestFor w code).Writable w.limits.standIns
    · obtain ⟨haccepted, hsurrogates⟩ := hx
      obtain ⟨x, hx⟩ :=
        Bencode.exists_encode_error (Client.codable_evalRequest w.requestName code) hsurrogates
      have hr : r = .error (.unwritable x) := evalCode_of_unwritable hc haccepted hx
      rw [hr]
      refine ⟨fun t => ⟨nofun, fun h => absurd h.1 hreach⟩, fun f => ?_, nofun⟩
      constructor
      · rintro ⟨⟩
        exact .inl ⟨haccepted, x, rfl, hx⟩
      · rintro (⟨-, y, rfl, hy⟩ | ⟨h, -⟩)
        · cases hx.symm.trans hy
          rfl
        · exact absurd h hreach
    · -- What is left decides nothing, and is reported.
      have hwritten : (w.network.connect c.host c.port).1 = none →
          (Client.requestFor w code).Writable w.limits.standIns := by
        simpa using hx
      obtain ⟨e, hr, hkind, hserver⟩ := evalCode_of_not_reaches hc hreach hwritten
      have hr : r = .ok (.error e) := hr
      rw [hr]
      refine ⟨fun t => ⟨nofun, fun h => absurd h.1 hreach⟩, fun f => ⟨nofun, ?_⟩, ?_⟩
      · rintro (⟨haccepted, x, -, hx⟩ | ⟨h, -⟩)
        · exact absurd hx (Client.encode_requestFor_ne_error (hwritten haccepted) _)
        · exact absurd h hreach
      · rintro _ ⟨⟩
        exact ⟨hkind, hserver⟩

/-- A workspace without files, before a network. -/
def Workspace.before (n : Network) : Workspace :=
  let settings : Settings := ⟨2000, 1000, 100, "localhost", 1000, 30, "", ""⟩
  ⟨.empty, "/w", [], some settings, none, .silent, .none, n, "1", .usual⟩

/-- A network that brings chunks without delay. -/
def Network.bringing (chunks : List (List UInt8)) : Network :=
  ⟨none, none, none, chunks.map fun chunk => ⟨0, .data chunk⟩, 0, [], []⟩

/-- A response that says that an evaluation is done. -/
def doneResponse : EvalResponse := [(.text "status", .list [.text "done"])]

theorem readsAs_doneStatus :
    Bencode.ReadsAs (Bencode.written (.list [.text "done"])) (.list [.text "done"]) := by
  have hword := Bencode.readsAs_text (s := "done") (by decide +kernel)
  exact @Bencode.readsAs_list [.text "done"] Bencode.written id (List.forall_mem_singleton.2 hword)

theorem readsAs_doneResponse :
    Bencode.ReadsAs (Bencode.written (.dict doneResponse)) (.dict doneResponse) :=
  Bencode.readsAs_singleton (by decide +kernel) readsAs_doneStatus

theorem readsAs_saying {field text : String}
    (hfield : Numeral.printable (Utf8.encode field.toList).length = true)
    (htext : Numeral.printable (Utf8.encode text.toList).length = true) :
    Bencode.ReadsAs (Bencode.written (.dict (saying field text))) (.dict (saying field text)) :=
  Bencode.readsAs_singleton hfield (Bencode.readsAs_text htext)

/-- A server that answers in three chunks, each cut inside a response, is read to the end. -/
theorem evalCode_settles_in_chunks :
    let w := Workspace.before
      (.bringing (["d3:out1:", "aed6:status", "l4:doneee"].map Bencode.ascii))
    let c : Client := ⟨.text "localhost", 7888, .ofMilliseconds 1000, false, .empty⟩
    ((Client.create .null (.int 7888) (.float 1000)).perform w).1 = .ok c ∧
      c.Reaches w "(+ 1 2)" ∧
      ((evalCode (.text "(+ 1 2)") (.int 7888) .null (.float 1000)).perform w).1 =
        .ok (.ok "a") := by
  intro w c
  have hc : ((Client.create .null (.int 7888) (.float 1000)).perform w).1 = .ok c := rfl
  have hreach : c.Reaches w "(+ 1 2)" := ⟨rfl, Value.writable_nil _, rfl⟩
  have hover : Client.isOver ((Patience.ofMilliseconds 1000).deadline 0) 0 = false := by
    decide +kernel
  have ha : Bencode.ReadsAs (Bencode.written (.dict (saying "out" "a")))
      (.dict (saying "out" "a")) := readsAs_saying (by decide +kernel) (by decide +kernel)
  have hgets : c.Gets w.network [.dict (saying "out" "a"), .dict doneResponse] :=
    .of_written (by simp [ha, readsAs_doneResponse]) (by decide) (by decide) rfl hover
  obtain ⟨more, hmore⟩ := hgets.exists_messagesOn rfl
  have hfirst : FirstVerdict w.limits.levels
      (answersAmong w.requestName (c.messagesOn w.network)) [saying "out" "a"] doneResponse
      (.ok true) := by
    refine ⟨⟨answersAmong w.requestName more, ?_⟩, List.forall_mem_singleton.2 rfl, rfl⟩
    rw [hmore]
    rfl
  obtain ⟨hdone, -⟩ := evalCode_settles "(+ 1 2)" hc
  exact ⟨hc, hreach, (hdone "a").2 ⟨hreach, _, _, hfirst, by decide +kernel, rfl, _, rfl,
    .listed List.mem_cons_self⟩⟩

/-- A number as a status is passed on as a misuse, and a text in which the word occurs ends an
    evaluation. -/
theorem evalCode_settles_other_statuses :
    let w (message : String) := Workspace.before (.bringing [Bencode.ascii message])
    let outcome (message : String) : Except Failure (Except ServerError String) :=
      ((evalCode (.text "(+ 1 2)") (.int 7888) .null (.float 1000)).perform (w message)).1
    outcome "d6:statusi5ee" = .error (.wrongKind "argument of type 'int' is not iterable") ∧
      outcome "d6:status6:undonee" = .ok (.ok "") := by
  intro w outcome
  let c : Client := ⟨.text "localhost", 7888, .ofMilliseconds 1000, false, .empty⟩
  have hclient : ∀ message,
      ((Client.create .null (.int 7888) (.float 1000)).perform (w message)).1 = .ok c :=
    fun message => rfl
  have hreaches : ∀ message, c.Reaches (w message) "(+ 1 2)" := fun message =>
    ⟨rfl, Value.writable_nil _, rfl⟩
  have hover : Client.isOver ((Patience.ofMilliseconds 1000).deadline 0) 0 = false := by
    decide +kernel
  have hstatus : ∀ {status : Value}, Bencode.ReadsAs (Bencode.written status) status →
      ∀ m ∈ [Value.ofFields [("status", status)]], Bencode.ReadsAs (Bencode.written m) m := by
    intro status h
    exact List.forall_mem_singleton.2 (Bencode.readsAs_singleton (by decide +kernel) h)
  constructor
  · have hgets : c.Gets (w "d6:statusi5ee").network [.ofFields [("status", .int 5)]] :=
      .of_written (hstatus (Bencode.readsAs_int (by decide +kernel))) (by decide) (by decide)
        rfl hover
    obtain ⟨-, herror, -⟩ := evalCode_of_reaches (hclient _) (hreaches "d6:statusi5ee")
    refine (herror _).2 (hgets.course_eq rfl ?_ nofun)
    rfl
  · have hgets : c.Gets (w "d6:status6:undonee").network
        [.ofFields [("status", .text "undone")]] :=
      .of_written (hstatus (Bencode.readsAs_text (by decide +kernel))) (by decide) (by decide)
        rfl hover
    obtain ⟨hdone, -, -⟩ := evalCode_of_reaches (hclient _) (hreaches "d6:status6:undonee")
    refine (hdone _).2 ⟨.empty, hgets.course_eq rfl ?_ nofun, ?_⟩
    · rfl
    · rfl

end FormEdit
