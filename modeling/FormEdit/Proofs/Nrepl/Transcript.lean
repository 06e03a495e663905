import FormEdit.Proofs.Nrepl.Outcome

set_option autoImplicit false

/-! # The transcript of an answered request

When a server answers a request in time, with statuses that are lists, evaluating code gives the
transcript of the responses to the request up to the first whose status lists `done`, if the request
can be written and these responses can be shown, and else it fails without a report
(`evalCode_answered`). The transcript is the same for all that the server may send as long as each
stream of it is the same: however the bytes are cut, whatever is sent to others in between, in
whatever order the streams come, and into whatever pieces output and errors are cut. -/

namespace FormEdit

open FormEdit.Action

variable {response : EvalResponse} {responses : List EvalResponse} {e : Evaluation} {levels : Nat}

/-- Whether the status of a response is not there or a list. -/
def PlainStatus (response : EvalResponse) : Prop :=
  Value.lookup "status" response = none ∨
    ∃ items, Value.lookup "status" response = some (.list items)

/-- Whether the status of a response lists the word that ends an evaluation. -/
def listsDone (response : EvalResponse) : Bool :=
  match Value.lookup "status" response with
  | some (.list items) => items.any (·.isText "done")
  | _ => false

/-- Responses up to and including the first that ends the evaluation. -/
def untilDone : List EvalResponse → List EvalResponse
  | [] => []
  | response :: rest => if listsDone response then [response] else response :: untilDone rest

theorem responseIsDone_of_plain (h : PlainStatus response) :
    responseIsDone response = .ok (listsDone response) := by
  rcases h with h | ⟨items, h⟩
  · rw [responseIsDone, listsDone, h]
  · rw [responseIsDone, listsDone, h]
    cases items with
    | nil => rfl
    | cons item items => rfl

/-- Plain responses end an evaluation at the first that says so, whatever comes behind them, if all
    up to it can be shown. -/
theorem Evaluation.course_of_plain (e : Evaluation) (levels : Nat)
    (hplain : ∀ r ∈ responses, PlainStatus r) (hdone : ∃ r ∈ responses, listsDone r = true) :
    e.course levels responses =
      if (untilDone responses).all (canShow levels) then
        .ok (.done (e.addAll (untilDone responses)))
      else .error .tooDeep := by
  induction responses generalizing e with
  | nil =>
    obtain ⟨r, hr, -⟩ := hdone
    cases hr
  | cons response rest ih =>
    obtain ⟨hresponse, hrest⟩ := List.forall_mem_cons.1 hplain
    have hfirst : ∃ later, untilDone (response :: rest) = response :: later := by
      rw [untilDone]
      split <;> exact ⟨_, rfl⟩
    cases hshow : canShow levels response with
    | false =>
      obtain ⟨later, hlater⟩ := hfirst
      rw [course, verdictOf, hshow, hlater, List.all_cons, hshow]
      rfl
    | true =>
      rw [course, verdictOf_of_canShow hshow, responseIsDone_of_plain hresponse, untilDone]
      cases hlists : listsDone response with
      | true => simp [hshow, addAll]
      | false =>
        have hlater : ∃ r ∈ rest, listsDone r = true := by
          obtain ⟨r, hr, hrdone⟩ := hdone
          rcases List.mem_cons.1 hr with rfl | hr
          · rw [hlists] at hrdone
            cases hrdone
          · exact ⟨r, hr, hrdone⟩
        simpa [hshow, addAll] using ih _ hrest hlater

/-- Whether a server answers a request in time: it accepts and takes the request of the client that
    is made for the host, the port and the patience, and sends messages with plain statuses, among
    them a response to the request that ends its evaluation. -/
structure Answered (w : Workspace) (host port patience : Value) (messages : List Value) : Prop where
  client : ∃ c, ((Client.create host port patience).perform w).1 = .ok c ∧
    (w.network.connect c.host c.port).1 = none ∧ c.Gets w.network messages
  sent : w.network.sendFailure = none
  plain : ∀ response, .dict response ∈ messages → PlainStatus response
  done : ∃ response, .dict response ∈ messages ∧ answersRequest w.requestName response = true ∧
    listsDone response = true

/-- The responses to its request that a workspace is answered by. -/
def answersOf (w : Workspace) (messages : List Value) : List EvalResponse :=
  untilDone (answersAmong w.requestName messages)

/-- Whether a workspace can write the request for code and show the responses that it is answered
    by. -/
structure Fits (w : Workspace) (code : String) (messages : List Value) : Prop where
  request : (Client.requestFor w code).Writable w.limits.standIns
  shown : (answersOf w messages).all (canShow w.limits.levels) = true

section

variable {w : Workspace} {host port patience : Value} {messages : List Value} {code : String}

/-- A request that is written is answered if all responses can be shown. -/
theorem Answered.perform_of_written (h : Answered w host port patience messages)
    (hwritten : (Client.requestFor w code).Writable w.limits.standIns) :
    ((evalCode (.text code) port host patience).perform w).1 =
      if (answersOf w messages).all (canShow w.limits.levels) then
        .ok (.ok (transcriptOf (answersOf w messages)))
      else .error .tooDeep := by
  obtain ⟨c, hc, haccepted, hgets⟩ := h.client
  obtain ⟨-, hnew⟩ := Client.create_meets host port patience w
  obtain ⟨-, hempty⟩ := hnew c hc
  have hplain : ∀ r ∈ answersAmong w.requestName messages, PlainStatus r := fun r hr =>
    h.plain r (mem_answersAmong.1 hr).1
  have hdone : ∃ r ∈ answersAmong w.requestName messages, listsDone r = true := by
    obtain ⟨r, hmem, hanswers, hr⟩ := h.done
    exact ⟨r, mem_answersAmong.2 ⟨hmem, hanswers⟩, hr⟩
  have hcourse := Evaluation.course_of_plain .empty w.limits.levels hplain hdone
  obtain ⟨hok, herror, -⟩ := evalCode_of_reaches hc ⟨haccepted, hwritten, h.sent⟩
  rw [← answersOf] at hcourse
  -- What is decided by the messages that come in time no later message changes.
  split at hcourse
  · next hshown =>
    rw [if_pos hshown]
    exact (hok _).2 ⟨_, hgets.course_eq hempty hcourse nofun, rfl⟩
  · next hshown =>
    rw [if_neg hshown]
    exact (herror _).2 (hgets.course_eq hempty hcourse nofun)

theorem Answered.perform_of_fits (h : Answered w host port patience messages)
    (hfits : Fits w code messages) :
    ((evalCode (.text code) port host patience).perform w).1 =
      .ok (.ok (transcriptOf (answersOf w messages))) := by
  rw [h.perform_of_written hfits.request, if_pos hfits.shown]

/-- What does not fit is a failure, though the server has answered. -/
theorem Answered.perform_of_not_fits (h : Answered w host port patience messages)
    (hfits : ¬ Fits w code messages) :
    ((evalCode (.text code) port host patience).perform w).1 = .error .tooDeep ∨
      ∃ x, ((evalCode (.text code) port host patience).perform w).1 = .error (.unwritable x) := by
  by_cases hwritten : (Client.requestFor w code).Writable w.limits.standIns
  · rw [h.perform_of_written hwritten, if_neg fun hshown => hfits ⟨hwritten, hshown⟩]
    exact .inl rfl
  · obtain ⟨c, hc, haccepted, -⟩ := h.client
    obtain ⟨x, hx⟩ :=
      Bencode.exists_encode_error (Client.codable_evalRequest w.requestName code) hwritten
    exact .inr ⟨x, evalCode_of_unwritable hc haccepted hx⟩

/-- A request that is answered in time gives the transcript of the responses to it, up to and
    including the first that ends its evaluation, exactly if it holds no surrogates and none of
    these responses nests deeper than can be shown; otherwise it fails without a report. Where these
    responses say the same in each stream the transcript is the same, so it depends neither on the
    chunks that they come in, nor on messages that do not answer the request, nor on the order in
    which streams come, nor on the pieces that output and errors are cut into. -/
theorem evalCode_answered (code : String) (h : Answered w host port patience messages) :
    let r := ((evalCode (.text code) port host patience).perform w).1
    (∀ t, r = .ok (.ok t) ↔ Fits w code messages ∧ t = transcriptOf (answersOf w messages)) ∧
    (¬ Fits w code messages → r = .error .tooDeep ∨ ∃ x, r = .error (.unwritable x)) ∧
    ∀ (w' : Workspace) (host' port' patience' : Value) (messages' : List Value) (code' : String),
      Answered w' host' port' patience' messages' →
      SameStreams (answersOf w messages) (answersOf w' messages') →
      Fits w code messages → Fits w' code' messages' →
      ((evalCode (.text code') port' host' patience').perform w').1 = r := by
  intro r
  refine ⟨fun t => ?_, h.perform_of_not_fits, ?_⟩
  · constructor
    · intro hr
      by_cases hfits : Fits w code messages
      · have hok := h.perform_of_fits hfits
        exact ⟨hfits, Except.ok.inj (Except.ok.inj (hr.symm.trans hok))⟩
      · rcases h.perform_of_not_fits hfits with hdeep | ⟨x, hx⟩
        · cases hr.symm.trans hdeep
        · cases hr.symm.trans hx
    · intro ht
      rw [ht.2]
      exact h.perform_of_fits ht.1
  · intro w' host' port' patience' messages' code' h' hsame hfits hfits'
    show _ = ((evalCode (.text code) port host patience).perform w).1
    rw [h.perform_of_fits hfits, h'.perform_of_fits hfits', transcriptOf_eq_of_sameStreams hsame]

end

/-- Output that comes in two pieces, the first of them cut in the middle, reads as if it had come in
    one, with a number in between that is no response. -/
theorem evalCode_answered_cut_and_joined :
    let w (chunks : List String) := Workspace.before (.bringing (chunks.map Bencode.ascii))
    let out (s : String) : Value := .dict (saying "out" s)
    let done : Value := .dict doneResponse
    let cut := w ["d3:out1:", "aed3:out1:bed6:statusl4:doneee"]
    let joined := w ["d3:out2:abei7ed6:statusl4:doneee"]
    let outcome (w : Workspace) : Except Failure (Except ServerError String) :=
      ((evalCode (.text "(+ 1 2)") (.int 7888) .null (.float 1000)).perform w).1
    Answered cut .null (.int 7888) (.float 1000) [out "a", out "b", done] ∧
      Answered joined .null (.int 7888) (.float 1000) [out "ab", .int 7, done] ∧
      SameStreams (answersOf cut [out "a", out "b", done])
        (answersOf joined [out "ab", .int 7, done]) ∧
      Fits cut "(+ 1 2)" [out "a", out "b", done] ∧
      Fits joined "(+ 1 2)" [out "ab", .int 7, done] ∧
      outcome cut = .ok (.ok "ab") ∧ outcome joined = .ok (.ok "ab") := by
  intro w out done cut joined outcome
  let c : Client := ⟨.text "localhost", 7888, .ofMilliseconds 1000, false, .empty⟩
  have hover : Client.isOver ((Patience.ofMilliseconds 1000).deadline 0) 0 = false := by
    decide +kernel
  have hplain : ∀ {messages : List Value} {response : EvalResponse},
      messages ⊆ [out "a", out "b", out "ab", done, .int 7] → .dict response ∈ messages →
      PlainStatus response := by
    intro messages response hmessages hmem
    have hmem := hmessages hmem
    simp only [out, done, List.mem_cons, Value.dict.injEq, List.not_mem_nil] at hmem
    rcases hmem with rfl | rfl | rfl | rfl | h | h
    · exact .inl rfl
    · exact .inl rfl
    · exact .inl rfl
    · exact .inr ⟨_, rfl⟩
    · cases h
    · cases h
  have hout : ∀ {s : String}, Numeral.printable (Utf8.encode s.toList).length = true →
      Bencode.ReadsAs (Bencode.written (out s)) (out s) := readsAs_saying (by decide +kernel)
  have hdone : Bencode.ReadsAs (Bencode.written done) done := readsAs_doneResponse
  have hcut : Answered cut .null (.int 7888) (.float 1000) [out "a", out "b", done] := by
    have ha := hout (s := "a") (by decide +kernel)
    have hb := hout (s := "b") (by decide +kernel)
    have hmessages : c.Gets cut.network [out "a", out "b", done] :=
      .of_written (by simp [ha, hb, hdone]) (by decide) (by decide) rfl hover
    exact ⟨⟨c, rfl, rfl, hmessages⟩, rfl, fun _ => hplain (by simp), doneResponse, by simp [done],
      rfl, rfl⟩
  have hjoined : Answered joined .null (.int 7888) (.float 1000) [out "ab", .int 7, done] := by
    have hab := hout (s := "ab") (by decide +kernel)
    have hseven : Bencode.ReadsAs (Bencode.written (.int 7)) (.int 7) :=
      Bencode.readsAs_int (by decide +kernel)
    have hmessages : c.Gets joined.network [out "ab", .int 7, done] :=
      .of_written (by simp [hab, hdone, hseven]) (by decide) (by decide) rfl hover
    exact ⟨⟨c, rfl, rfl, hmessages⟩, rfl, fun _ => hplain (by simp), doneResponse, by simp [done],
      rfl, rfl⟩
  have hsame : SameStreams (answersOf cut [out "a", out "b", done])
      (answersOf joined [out "ab", .int 7, done]) := .join (.inl rfl) "a" "b" [] [doneResponse]
  have hfits : Fits cut "(+ 1 2)" [out "a", out "b", done] :=
    ⟨Value.writable_nil _, by decide +kernel⟩
  have hfits' : Fits joined "(+ 1 2)" [out "ab", .int 7, done] :=
    ⟨Value.writable_nil _, by decide +kernel⟩
  have htranscript : transcriptOf (answersOf cut [out "a", out "b", done]) = "ab" := by
    decide +kernel
  obtain ⟨hiff, -, hall⟩ := evalCode_answered "(+ 1 2)" hcut
  have houtcome : outcome cut = .ok (.ok "ab") := (hiff _).2 ⟨hfits, htranscript.symm⟩
  exact ⟨hcut, hjoined, hsame, hfits, hfits', houtcome,
    (hall _ _ _ _ _ _ hjoined hsame hfits hfits').trans houtcome⟩

/-! ## Values that nest too deep -/

/-- A list in a list in a list, and so on. -/
def nested : Nat → Value
  | 0 => .list []
  | n + 1 => .list [nested n]

theorem depth_nested (n : Nat) : (nested n).depth = n + 1 := by
  induction n with
  | zero => rfl
  | succ n ih => simp [nested, Value.depth, Value.depthOfItems, ih]

theorem readsAs_nested (n : Nat) : Bencode.ReadsAs (Bencode.written (nested n)) (nested n) := by
  induction n with
  | zero => exact @Bencode.readsAs_list [] Bencode.written id (List.forall_mem_nil _)
  | succ n ih =>
    rw [nested, Bencode.written_list]
    exact @Bencode.readsAs_list [nested n] Bencode.written id (List.forall_mem_singleton.2 ih)

/-- A response that says that an evaluation is done and has a value that nests. -/
def nestedResponse (n : Nat) : EvalResponse := (.text "value", nested n) :: doneResponse

theorem canShow_nestedResponse (levels n : Nat) :
    canShow levels (nestedResponse n) = decide (n < levels) := by
  have hvalue : (nested n).isShowable levels = decide (n < levels) := by
    have hdepth : (nested n).isShowable levels = decide ((nested n).depth ≤ levels) := by
      cases n <;> rfl
    simp [hdepth, depth_nested]
  have hlookup : ∀ name ∈ ["out", "err", "ex", "ns"],
      Value.lookup name (nestedResponse n) = none := by
    intro name hname
    simp only [List.mem_cons, List.not_mem_nil, or_false] at hname
    rcases hname with rfl | rfl | rfl | rfl <;> rfl
  simp only [List.forall_mem_cons] at hlookup
  have hfirst : Value.lookup "value" (nestedResponse n) = some (nested n) := rfl
  simp [canShow, shownFields, hfirst, hlookup, hvalue]

theorem readsAs_nestedResponse (n : Nat) :
    Bencode.ReadsAs (Bencode.written (.dict (nestedResponse n))) (.dict (nestedResponse n)) := by
  have hnames : ["value", "status"].Nodup := by decide
  have hlengths : ∀ name ∈ ["value", "status"],
      Numeral.printable (Utf8.encode name.toList).length = true := by
    decide +kernel
  exact @Bencode.readsAs_ofFields [("value", nested n), ("status", .list [.text "done"])] hnames
    (fun f hf => hlengths f.1 (List.mem_map_of_mem hf))
    (List.forall_mem_cons.2 ⟨readsAs_nested n, List.forall_mem_singleton.2 readsAs_doneStatus⟩)

/-- A server that answers with a value that nests as deep as there are levels is answered by, and
    still the evaluation fails without a report. -/
theorem evalCode_answered_too_deep :
    let messages : List Value := [.dict (nestedResponse 980)]
    let w := Workspace.before (.bringing (messages.map Bencode.written))
    Answered w .null (.int 7888) (.float 1000) messages ∧
      ((evalCode (.text "(+ 1 2)") (.int 7888) .null (.float 1000)).perform w).1 =
        .error .tooDeep := by
  intro messages w
  let c : Client := ⟨.text "localhost", 7888, .ofMilliseconds 1000, false, .empty⟩
  have hover : Client.isOver ((Patience.ofMilliseconds 1000).deadline 0) 0 = false := by
    decide +kernel
  have hread := readsAs_nestedResponse 980
  have hgets : c.Gets w.network messages :=
    .of_written (List.forall_mem_singleton.2 hread) rfl (List.forall_mem_singleton.2 nofun) rfl
      hover
  have hanswered : Answered w .null (.int 7888) (.float 1000) messages := by
    refine ⟨⟨c, rfl, rfl, hgets⟩, rfl, fun response hmem => ?_, nestedResponse 980,
      List.mem_cons_self, rfl, rfl⟩
    rw [Value.dict.inj (List.mem_singleton.1 hmem)]
    exact .inr ⟨_, rfl⟩
  have hanswers : answersOf w messages = [nestedResponse 980] := rfl
  refine ⟨hanswered, ?_⟩
  rw [hanswered.perform_of_written (Value.writable_nil _), hanswers, List.all_cons,
    canShow_nestedResponse]
  rfl

end FormEdit
