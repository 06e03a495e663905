import FormEdit.Nrepl.Client
import FormEdit.Proofs.Bencode.Chunks
import FormEdit.Proofs.Nrepl.Responses

set_option autoImplicit false

/-! # What a client receives

While there is time left a client waits for the next chunk, up to the first that does not come
(`arrivals`). What it makes of the chunks depends on the messages in them alone: the first response
that decides ends the evaluation, and else it ends with what the bytes or the connection end with
(`receive_outcome`). -/

namespace FormEdit.Client

open Bencode (Stream)

/-- The chunks that come while there is time left, and why no more of them come. -/
structure Arrivals where
  chunks : List (List UInt8)
  ending : Interruption

/-- What comes of the network's future up to a deadline. -/
def arrivals (deadline : Float) (now : Int) : List NetworkEvent → Arrivals
  | [] => ⟨[], if isOver deadline now then .timedOut else .closed⟩
  | event :: coming =>
    if isOver deadline now then ⟨[], .timedOut⟩
    else
      match event.arrival with
      | .timedOut => ⟨[], .timedOut⟩
      | .failed reason => ⟨[], .failed reason⟩
      | .data [] => ⟨[], .closed⟩
      | .data (b :: bytes) =>
        let later := arrivals deadline (now + event.after) coming
        ⟨(b :: bytes) :: later.chunks, later.ending⟩

/-- What an evaluation comes to when its responses have made it what they do and no more of them
    come. -/
def conclude (ending : Interruption) : Except Failure Course → Except Interruption Evaluation
  | .error failure => .error (.misuse failure)
  | .ok (.done e) => .ok e
  | .ok (.going _) => .error ending

/-- The interruption that the bytes of chunks end with, or the connection behind them. -/
def endOf (fault : Option Bencode.Fault) (ending : Interruption) : Interruption :=
  match fault with
  | some fault => .malformed fault
  | none => ending

/-- What is received depends on the messages that the chunks hold, not on the way they are cut. -/
theorem receive_outcome (levels : Nat) (request : String) (deadline : Float) (now : Int)
    (stream : Stream) (e : Evaluation) (coming : List NetworkEvent) :
    (receive levels request deadline now stream e coming).outcome =
      conclude
        (endOf (stream.feedAll (arrivals deadline now coming).chunks).fault
          (arrivals deadline now coming).ending)
        (takeResponses levels request e
          (stream.feedAll (arrivals deadline now coming).chunks).messages) := by
  -- Each chunk is fed and taken in at once, and what comes later counts only while its messages
  -- have decided nothing.
  induction coming generalizing now stream e with
  | nil => rfl
  | cons event coming ih =>
    obtain ⟨after, arrival⟩ := event
    by_cases hover : isOver deadline now = true
    · rw [receive, arrivals, if_pos hover, if_pos hover]
      rfl
    rw [receive, arrivals, if_neg hover, if_neg hover]
    cases arrival with
    | timedOut => rfl
    | failed reason => rfl
    | data bytes =>
      cases bytes with
      | nil => rfl
      | cons b bytes =>
        dsimp only
        cases hfeed : stream.feed (b :: bytes) with
        | mk result stream' =>
          cases result with
          | error fault =>
            rw [Stream.feedAll_of_error hfeed]
            rfl
          | ok messages =>
            rw [Stream.feedAll_of_ok hfeed]
            dsimp only
            rw [takeResponses_append]
            cases takeResponses levels request e messages with
            | error failure => rfl
            | ok course =>
              cases course with
              | done e' => rfl
              | going e' => exact ih _ _ _

/-! ## Chunks that come in time -/

/-- Whether events bring chunks, one after the other and none empty, and each is waited for while
    there is time left. -/
structure Brings (deadline : Float) (now : Int) (events : List NetworkEvent)
    (chunks : List (List UInt8)) : Prop where
  data : events.map (·.arrival) = chunks.map .data
  nonempty : ∀ chunk ∈ chunks, chunk ≠ []
  inTime : ∀ k < events.length,
    isOver deadline (now + ((events.take k).map (·.after)).sum) = false

theorem Brings.tail {deadline : Float} {now : Int} {event : NetworkEvent}
    {events : List NetworkEvent} {chunk : List UInt8} {chunks : List (List UInt8)}
    (h : Brings deadline now (event :: events) (chunk :: chunks)) :
    Brings deadline (now + event.after) events chunks where
  data := (List.cons.inj h.data).2
  nonempty := fun c hc => h.nonempty c (List.mem_cons_of_mem chunk hc)
  inTime := by
    intro k hk
    have hlater := h.inTime (k + 1) (Nat.succ_lt_succ hk)
    rwa [List.take_succ_cons, List.map_cons, List.sum_cons, ← Int.add_assoc] at hlater

/-- Chunks that come in time are received, whatever comes behind them. -/
theorem Brings.exists_chunks {deadline : Float} {now : Int} {events : List NetworkEvent}
    {chunks : List (List UInt8)} (h : Brings deadline now events chunks)
    (later : List NetworkEvent) :
    ∃ more, (arrivals deadline now (events ++ later)).chunks = chunks ++ more := by
  induction events generalizing now chunks with
  | nil =>
    obtain rfl : chunks = [] := by simpa using h.data.symm
    exact ⟨_, rfl⟩
  | cons event events ih =>
    cases chunks with
    | nil => cases h.data
    | cons chunk chunks =>
      obtain ⟨more, hmore⟩ := ih h.tail
      have hintime : isOver deadline now = false := by
        simpa using h.inTime 0 (Nat.zero_lt_succ _)
      have harrival : event.arrival = .data chunk := (List.cons.inj h.data).1
      cases chunk with
      | nil => exact absurd rfl (h.nonempty [] List.mem_cons_self)
      | cons b bytes =>
        refine ⟨more, ?_⟩
        rw [List.cons_append, arrivals, hintime, if_neg Bool.false_ne_true, harrival]
        exact congrArg (List.cons (b :: bytes)) hmore

/-- Chunks that come without delay come in time if there is any. -/
theorem Brings.of_no_delay {deadline : Float} {now : Int} {chunks : List (List UInt8)}
    (hne : ∀ chunk ∈ chunks, chunk ≠ []) (h : isOver deadline now = false) :
    Brings deadline now (chunks.map fun chunk => ⟨0, .data chunk⟩) chunks where
  data := by
    rw [List.map_map]
    rfl
  nonempty := hne
  inTime := by
    intro k _
    have hsum : ∀ chunks : List (List UInt8),
        ((chunks.map fun chunk => (⟨0, .data chunk⟩ : NetworkEvent)).map (·.after)).sum = 0 := by
      intro chunks
      induction chunks with
      | nil => rfl
      | cons chunk chunks ih => rw [List.map_cons, List.map_cons, List.sum_cons, ih, Int.add_zero]
    rw [← List.map_take, hsum, Int.add_zero]
    exact h

end FormEdit.Client
