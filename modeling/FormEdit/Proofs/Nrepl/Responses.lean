import FormEdit.Nrepl.Evaluation

set_option autoImplicit false

/-! # What responses make of an evaluation

Of the messages that come only the responses to the request count, and of these only the ones up to
the first that does not let the evaluation go on (`FirstVerdict`). What an evaluation has gathered
is, stream by stream, what the fields of these responses show (`Evaluation.addAll`), and the
transcript tells no more of it than the joined output, the joined errors, the values and the
exceptions (`transcriptOf_eq_of_sameStreams`). -/

namespace FormEdit

/-- A response: the entries of a dictionary. -/
abbrev EvalResponse := List (Value × Value)

variable {name : String} {e e' : Evaluation} {messages before behind : List Value}
  {response : EvalResponse} {responses others : List EvalResponse} {f : Failure} {levels : Nat}

/-- The response to the request with a name that a message is, if it is one. -/
def answerTo? (name : String) : Value → Option EvalResponse
  | .dict response => if answersRequest name response then some response else none
  | _ => none

/-- The responses among messages that answer the request with a name. -/
def answersAmong (name : String) (messages : List Value) : List EvalResponse :=
  messages.filterMap (answerTo? name)

theorem answersAmong_append (name : String) (before behind : List Value) :
    answersAmong name (before ++ behind) = answersAmong name before ++ answersAmong name behind :=
  List.filterMap_append

theorem mem_answersAmong : response ∈ answersAmong name messages ↔
    .dict response ∈ messages ∧ answersRequest name response = true := by
  rw [answersAmong, List.mem_filterMap]
  constructor
  · rintro ⟨message, hmem, hmessage⟩
    unfold answerTo? at hmessage
    split at hmessage
    · split at hmessage
      · next hanswers =>
        cases hmessage
        exact ⟨hmem, hanswers⟩
      · cases hmessage
    · cases hmessage
  · rintro ⟨hmem, hanswers⟩
    exact ⟨_, hmem, if_pos hanswers⟩

/-! ## Gathering -/

/-- Add what responses hold, in order. -/
def Evaluation.addAll (e : Evaluation) (responses : List EvalResponse) : Evaluation :=
  responses.foldl Evaluation.add e

theorem Evaluation.addAll_concat (e : Evaluation) (responses : List EvalResponse)
    (response : EvalResponse) :
    e.addAll (responses ++ [response]) = (e.addAll responses).add response :=
  List.foldl_append

/-- What a field shows in responses, in order. -/
def shown (field : String) (responses : List EvalResponse) : List String :=
  responses.flatMap fun response => ((Value.lookup field response).map Value.display).toList

theorem Evaluation.addAll_streams (e : Evaluation) (responses : List EvalResponse) :
    (e.addAll responses).values = e.values ++ shown "value" responses ∧
      (e.addAll responses).out = e.out ++ shown "out" responses ∧
      (e.addAll responses).err = e.err ++ shown "err" responses ∧
      (e.addAll responses).exceptions = e.exceptions ++ shown "ex" responses := by
  induction responses generalizing e with
  | nil => simp [addAll, shown]
  | cons response responses ih =>
    obtain ⟨hvalues, hout, herr, hexceptions⟩ := ih (e.add response)
    refine ⟨hvalues.trans ?_, hout.trans ?_, herr.trans ?_, hexceptions.trans ?_⟩ <;>
      simp [add, shown]

/-- Whether two runs of responses say the same in each stream: pieces of output or errors may be
    cut in other ways, values and exceptions are the same one by one. -/
structure SameStreams (responses others : List EvalResponse) : Prop where
  out : String.join (shown "out" responses) = String.join (shown "out" others)
  err : String.join (shown "err" responses) = String.join (shown "err" others)
  value : shown "value" responses = shown "value" others
  ex : shown "ex" responses = shown "ex" others

theorem shown_append (field : String) (responses others : List EvalResponse) :
    shown field (responses ++ others) = shown field responses ++ shown field others :=
  List.flatMap_append

theorem shown_swap {field : String} {r s : EvalResponse}
    (h : Value.lookup field r = none ∨ Value.lookup field s = none)
    (before behind : List EvalResponse) :
    shown field (before ++ r :: s :: behind) = shown field (before ++ s :: r :: behind) := by
  rw [shown_append, shown_append]
  rcases h with h | h <;> simp [shown, h]

/-- Neighbouring responses that share no stream may come in either order. -/
theorem SameStreams.swap {r s : EvalResponse}
    (h : ∀ field ∈ ["out", "err", "value", "ex"],
      Value.lookup field r = none ∨ Value.lookup field s = none)
    (before behind : List EvalResponse) :
    SameStreams (before ++ r :: s :: behind) (before ++ s :: r :: behind) where
  out := congrArg String.join (shown_swap (h _ (by decide)) before behind)
  err := congrArg String.join (shown_swap (h _ (by decide)) before behind)
  value := shown_swap (h _ (by decide)) before behind
  ex := shown_swap (h _ (by decide)) before behind

/-- A response that says a text in one stream. -/
def saying (field text : String) : EvalResponse := [(.text field, .text text)]

theorem shown_saying_cons (field stream text : String) (responses : List EvalResponse) :
    shown stream (saying field text :: responses) =
      (if field = stream then [text] else []) ++ shown stream responses := by
  have hlookup : Value.lookup stream (saying field text) =
      if field = stream then some (.text text) else none := by
    by_cases h : field = stream <;> simp [saying, Value.lookup, Value.isText, h]
  rw [shown, List.flatMap_cons, ← shown, hlookup]
  split <;> rfl

/-- A text of output or errors may come in two pieces or in one. -/
theorem SameStreams.join {field : String} (hfield : field = "out" ∨ field = "err") (s t : String)
    (before behind : List EvalResponse) :
    SameStreams (before ++ saying field s :: saying field t :: behind)
      (before ++ saying field (s ++ t) :: behind) := by
  have hother : ∀ stream, field ≠ stream →
      shown stream (before ++ saying field s :: saying field t :: behind) =
        shown stream (before ++ saying field (s ++ t) :: behind) := by
    intro stream hne
    simp only [shown_append, shown_saying_cons, if_neg hne, List.nil_append]
  have hjoin : ∀ stream,
      String.join (shown stream (before ++ saying field s :: saying field t :: behind)) =
        String.join (shown stream (before ++ saying field (s ++ t) :: behind)) := by
    intro stream
    by_cases h : field = stream
    · simp only [shown_append, shown_saying_cons, if_pos h, String.join_append, String.join_cons,
        List.singleton_append, String.append_assoc]
    · rw [hother stream h]
  have hvalue : field ≠ "value" := by
    rcases hfield with rfl | rfl <;> decide
  have hex : field ≠ "ex" := by
    rcases hfield with rfl | rfl <;> decide
  exact ⟨hjoin _, hjoin _, hother _ hvalue, hother _ hex⟩

/-- The transcript of what responses say. -/
def transcriptOf (responses : List EvalResponse) : String :=
  (Evaluation.empty.addAll responses).transcript

/-- Responses that say the same in each stream have the same transcript. -/
theorem transcriptOf_eq_of_sameStreams (h : SameStreams responses others) :
    transcriptOf responses = transcriptOf others := by
  obtain ⟨hvalues, hout, herr, hexceptions⟩ := Evaluation.empty.addAll_streams responses
  obtain ⟨hvalues', hout', herr', hexceptions'⟩ := Evaluation.empty.addAll_streams others
  have hprinted : ∀ {pieces pieces' : List String}, String.join pieces = String.join pieces' →
      Evaluation.printed pieces = Evaluation.printed pieces' := by
    intro pieces pieces' hjoin
    rw [Evaluation.printed, hjoin, Evaluation.printed]
  rw [transcriptOf, transcriptOf, Evaluation.transcript, Evaluation.transcript]
  rw [hvalues, hout, herr, hexceptions, hvalues', hout', herr', hexceptions']
  simp only [Evaluation.empty, List.nil_append]
  rw [hprinted h.out, hprinted h.err, h.value, h.ex]

/-! ## Verdicts -/

/-- What responses to one request make of its evaluation, in order. -/
def Evaluation.course (levels : Nat) (e : Evaluation) : List EvalResponse → Except Failure Course
  | [] => .ok (.going e)
  | response :: rest =>
    match verdictOf levels response with
    | .error failure => .error failure
    | .ok true => .ok (.done (e.add response))
    | .ok false => (e.add response).course levels rest

theorem takeResponses_of_answerTo? {message : Value} (h : answerTo? name message = some response)
    (rest : List Value) :
    takeResponses levels name e (message :: rest) =
      match verdictOf levels response with
      | .error failure => .error failure
      | .ok true => .ok (.done (e.add response))
      | .ok false => takeResponses levels name (e.add response) rest := by
  unfold answerTo? at h
  split at h
  · split at h
    · next hanswers =>
      cases h
      exact if_pos hanswers
    · cases h
  · cases h

theorem takeResponses_of_answerTo?_none {message : Value} (h : answerTo? name message = none)
    (rest : List Value) :
    takeResponses levels name e (message :: rest) = takeResponses levels name e rest := by
  cases message with
  | dict response =>
    have hanswers : ¬ answersRequest name response = true := by
      intro hanswers
      rw [answerTo?, if_pos hanswers] at h
      cases h
    exact if_neg hanswers
  | _ => rfl

/-- Of messages only the responses to the request are taken in. -/
theorem takeResponses_eq_course (name : String) (e : Evaluation) (messages : List Value) :
    takeResponses levels name e messages = e.course levels (answersAmong name messages) := by
  induction messages generalizing e with
  | nil => rfl
  | cons message rest ih =>
    rw [answersAmong, List.filterMap_cons, ← answersAmong]
    cases hanswer : answerTo? name message with
    | none => rw [takeResponses_of_answerTo?_none hanswer, ih]
    | some response =>
      rw [takeResponses_of_answerTo? hanswer, Evaluation.course]
      cases verdictOf levels response with
      | error f => rfl
      | ok done =>
        cases done with
        | true => rfl
        | false => exact ih _

/-- Responses are taken in until one decides. -/
theorem Evaluation.course_append (e : Evaluation) (responses others : List EvalResponse) :
    e.course levels (responses ++ others) =
      match e.course levels responses with
      | .ok (.going e) => e.course levels others
      | decided => decided := by
  induction responses generalizing e with
  | nil => rfl
  | cons response rest ih =>
    rw [List.cons_append, course, course]
    cases verdictOf levels response with
    | error f => rfl
    | ok done =>
      cases done with
      | true => rfl
      | false => exact ih _

theorem takeResponses_append (name : String) (e : Evaluation) (before behind : List Value) :
    takeResponses levels name e (before ++ behind) =
      match takeResponses levels name e before with
      | .ok (.going e) => takeResponses levels name e behind
      | decided => decided := by
  simp only [takeResponses_eq_course, answersAmong_append]
  exact Evaluation.course_append e _ _

/-- Responses that let an evaluation go on are gathered. -/
theorem Evaluation.course_of_passed (h : ∀ r ∈ responses, verdictOf levels r = .ok false) :
    e.course levels responses = .ok (.going (e.addAll responses)) := by
  induction responses generalizing e with
  | nil => rfl
  | cons response rest ih =>
    obtain ⟨hresponse, hrest⟩ := List.forall_mem_cons.1 h
    rw [course, hresponse]
    exact ih hrest

/-- Whether `response` stands behind `before` among responses to a request and says `verdict`, while
    all in front of it let the evaluation go on. -/
structure FirstVerdict (levels : Nat) (responses before : List EvalResponse)
    (response : EvalResponse) (verdict : Except Failure Bool) : Prop where
  place : ∃ behind, responses = before ++ response :: behind
  passed : ∀ r ∈ before, verdictOf levels r = .ok false
  decides : verdictOf levels response = verdict

/-- Responses all let an evaluation go on, or one is the first that does not. -/
theorem passed_or_exists_firstVerdict (levels : Nat) (responses : List EvalResponse) :
    (∀ r ∈ responses, verdictOf levels r = .ok false) ∨
      ∃ before response verdict, FirstVerdict levels responses before response verdict ∧
        verdict ≠ .ok false := by
  induction responses with
  | nil => exact .inl (by simp)
  | cons response rest ih =>
    by_cases hresponse : verdictOf levels response = .ok false
    · rcases ih with hrest | ⟨before, response', verdict, ⟨⟨behind, rfl⟩, hpassed, hsays⟩, hne⟩
      · exact .inl (List.forall_mem_cons.2 ⟨hresponse, hrest⟩)
      · refine .inr ⟨response :: before, response', verdict, ⟨⟨behind, rfl⟩, ?_, hsays⟩, hne⟩
        exact List.forall_mem_cons.2 ⟨hresponse, hpassed⟩
    · exact .inr ⟨[], response, _, ⟨⟨rest, rfl⟩, by simp, rfl⟩, hresponse⟩

/-- The first response that does not let the evaluation go on decides it. -/
theorem FirstVerdict.course_eq {before : List EvalResponse} {verdict : Except Failure Bool}
    (h : FirstVerdict levels responses before response verdict) (hne : verdict ≠ .ok false) :
    e.course levels responses = verdict.map fun _ => .done (e.addAll (before ++ [response])) := by
  obtain ⟨⟨behind, rfl⟩, hpassed, rfl⟩ := h
  rw [Evaluation.course_append, Evaluation.course_of_passed hpassed]
  dsimp only
  rw [Evaluation.course]
  cases hsays : verdictOf levels response with
  | error f => rfl
  | ok done =>
    cases done with
    | true =>
      rw [Evaluation.addAll_concat]
      rfl
    | false => exact absurd hsays hne

theorem Evaluation.course_eq_done_iff : e.course levels responses = .ok (.done e') ↔
    ∃ before response, FirstVerdict levels responses before response (.ok true) ∧
      e' = e.addAll (before ++ [response]) := by
  constructor
  · intro h
    rcases passed_or_exists_firstVerdict levels responses with
      hpassed | ⟨before, response, verdict, hfirst, hne⟩
    · rw [course_of_passed hpassed] at h
      cases h
    · rw [hfirst.course_eq hne] at h
      cases verdict with
      | error f => cases h
      | ok done =>
        cases done with
        | true =>
          cases h
          exact ⟨before, response, hfirst, rfl⟩
        | false => exact absurd rfl hne
  · rintro ⟨before, response, hfirst, rfl⟩
    exact hfirst.course_eq nofun

theorem Evaluation.course_eq_error_iff : e.course levels responses = .error f ↔
    ∃ before response, FirstVerdict levels responses before response (.error f) := by
  constructor
  · intro h
    rcases passed_or_exists_firstVerdict levels responses with
      hpassed | ⟨before, response, verdict, hfirst, hne⟩
    · rw [course_of_passed hpassed] at h
      cases h
    · rw [hfirst.course_eq hne] at h
      cases verdict with
      | error f' =>
        cases h
        exact ⟨before, response, hfirst⟩
      | ok done => cases h
  · rintro ⟨before, response, hfirst⟩
    exact hfirst.course_eq nofun

end FormEdit
