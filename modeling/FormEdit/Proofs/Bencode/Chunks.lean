import FormEdit.Bencode.Encode
import FormEdit.Bencode.Stream
import FormEdit.Proofs.Bencode.Longer
import Mathlib

set_option autoImplicit false

/-! # Bytes cut into chunks

What bytes hold does not depend on how they come: whole values stand at their front, and behind
them stands what is incomplete or malformed (`wholes`, `faultIn`). A call takes in a chunk by this
rule (`Stream.feed_eq`), so two ways of cutting the same bytes end with the same fault or with the
same bytes waiting. They hand back the same values as long as there is no fault. The call that
meets the fault hands back nothing, so what its chunk had completed is lost
(`Stream.feedAll_of_flatten_eq`). -/

namespace FormEdit.Bencode

variable {bs rest xs : List UInt8} {v : Value} {f : Fault}

/-! ## What bytes hold -/

/-- The whole values at the front of some bytes, and the bytes behind them. -/
def wholes (bs : List UInt8) : List Value × List UInt8 :=
  match _h : read bs with
  | .done v rest => (v :: (wholes rest).1, (wholes rest).2)
  | .incomplete => ([], bs)
  | .malformed _ => ([], bs)
  termination_by bs.length
  decreasing_by all_goals exact length_lt_of_read _h

/-- The fault that a reading ends with. -/
def Reading.fault? : Reading → Option Fault
  | .malformed fault => some fault
  | _ => none

/-- The fault behind the whole values at the front of some bytes. -/
def faultIn (bs : List UInt8) : Option Fault := (read (wholes bs).2).fault?

theorem wholes_of_done (h : read bs = .done v rest) :
    wholes bs = (v :: (wholes rest).1, (wholes rest).2) := by
  rw [wholes]
  split
  · next h' =>
    rw [h] at h'
    cases h'
    rfl
  · next h' => simp [h] at h'
  · next h' => simp [h] at h'

theorem wholes_of_not_done (h : ∀ v rest, read bs ≠ .done v rest) : wholes bs = ([], bs) := by
  rw [wholes]
  split
  · next h' => exact absurd h' (h _ _)
  · rfl
  · rfl

/-- Behind the whole values there is no other. -/
theorem read_wholes_ne_done (bs : List UInt8) (v : Value) (rest : List UInt8) :
    read (wholes bs).2 ≠ .done v rest := by
  fun_induction wholes bs with
  | case1 bs w r h ih => exact ih
  | case2 bs h => simp [h]
  | case3 bs fault h => simp [h]

theorem read_wholes_of_faultIn (h : faultIn bs = none) : read (wholes bs).2 = .incomplete := by
  unfold faultIn at h
  cases hr : read (wholes bs).2 with
  | done v rest => exact absurd hr (read_wholes_ne_done bs v rest)
  | incomplete => rfl
  | malformed f => simp [hr, Reading.fault?] at h

/-- Longer bytes hold the same whole values, and behind them what the rest holds with what has
    come. -/
theorem wholes_append (bs xs : List UInt8) :
    wholes (bs ++ xs) =
      ((wholes bs).1 ++ (wholes ((wholes bs).2 ++ xs)).1, (wholes ((wholes bs).2 ++ xs)).2) := by
  fun_induction wholes bs with
  | case1 bs v rest h ih => rw [wholes_of_done (read_append_of_done h xs), ih, List.cons_append]
  | case2 bs h => rw [List.nil_append]
  | case3 bs fault h => rw [List.nil_append]

theorem faultIn_append_eq (bs xs : List UInt8) :
    faultIn (bs ++ xs) = faultIn ((wholes bs).2 ++ xs) := by
  rw [faultIn, wholes_append, ← faultIn]

theorem faultIn_eq_some_iff : faultIn bs = some f ↔ read (wholes bs).2 = .malformed f := by
  unfold faultIn
  cases read (wholes bs).2 <;> simp [Reading.fault?]

/-- Nothing is read behind a fault. -/
theorem wholes_append_of_faultIn (h : faultIn bs = some f) (xs : List UInt8) :
    wholes (bs ++ xs) = ((wholes bs).1, (wholes bs).2 ++ xs) := by
  have hm := read_append_of_malformed (faultIn_eq_some_iff.1 h) xs
  have hnil : wholes ((wholes bs).2 ++ xs) = ([], (wholes bs).2 ++ xs) :=
    wholes_of_not_done fun v rest => by simp [hm]
  rw [wholes_append, hnil, List.append_nil]

theorem faultIn_append (h : faultIn bs = some f) (xs : List UInt8) :
    faultIn (bs ++ xs) = some f := by
  rw [faultIn_eq_some_iff, wholes_append_of_faultIn h]
  exact read_append_of_malformed (faultIn_eq_some_iff.1 h) xs

theorem read_nil : read [] = .incomplete := by rw [read, readFrom]

theorem wholes_nil : wholes [] = ([], []) := wholes_of_not_done fun v rest => by simp [read_nil]

theorem faultIn_nil : faultIn [] = none := by
  rw [faultIn, wholes_nil, read_nil]
  rfl

namespace Stream

/-! ## Calls -/

theorem drain_eq (done : List Value) (bs : List UInt8) :
    drain done bs =
      (match faultIn bs with
        | some fault => .error fault
        | none => .ok (done.reverse ++ (wholes bs).1),
      ⟨(wholes bs).2⟩) := by
  fun_induction drain done bs with
  | case1 done => simp [faultIn_nil, wholes_nil]
  | case2 done b r v rest h ih =>
    have hf : faultIn (b :: r) = faultIn rest := by rw [faultIn, wholes_of_done h, ← faultIn]
    rw [ih, hf, wholes_of_done h]
    simp
  | case3 done b r h =>
    have hw : wholes (b :: r) = ([], b :: r) := wholes_of_not_done fun v rest => by simp [h]
    simp [faultIn, hw, h, Reading.fault?]
  | case4 done b r fault h =>
    have hw : wholes (b :: r) = ([], b :: r) := wholes_of_not_done fun v rest => by simp [h]
    simp [faultIn, hw, h, Reading.fault?]

/-- A call hands back the whole values of the bytes that have come, if there is no fault behind
    them. -/
theorem feed_eq (s : Stream) (chunk : List UInt8) :
    s.feed chunk =
      (match faultIn (s.buffer ++ chunk) with
        | some fault => .error fault
        | none => .ok (wholes (s.buffer ++ chunk)).1,
      ⟨(wholes (s.buffer ++ chunk)).2⟩) := by
  rw [feed, drain_eq, List.reverse_nil, List.nil_append]

end Stream

/-! ## Runs -/

/-- What feeding chunks one after the other comes to, up to the first fault: the values that the
    calls have handed back, those that the call with the fault had read and did not hand back, the
    fault, and the stream in the end. -/
structure Feeding where
  messages : List Value
  lost : List Value
  fault : Option Fault
  stream : Stream

namespace Stream

/-- Feed chunks one after the other, up to the first fault. -/
def feedAll (s : Stream) : List (List UInt8) → Feeding
  | [] => ⟨[], [], none, s⟩
  | chunk :: chunks =>
    match s.feed chunk with
    | (.error fault, t) => ⟨[], (wholes (s.buffer ++ chunk)).1, some fault, t⟩
    | (.ok vs, t) =>
      let later := t.feedAll chunks
      { later with messages := vs ++ later.messages }

variable {s t : Stream} {c : List UInt8} {vs : List Value}

theorem feedAll_of_error (h : s.feed c = (.error f, t)) (cs : List (List UInt8)) :
    s.feedAll (c :: cs) = ⟨[], (wholes (s.buffer ++ c)).1, some f, t⟩ := by
  rw [feedAll, h]

theorem feedAll_of_ok (h : s.feed c = (.ok vs, t)) (cs : List (List UInt8)) :
    s.feedAll (c :: cs) = { t.feedAll cs with messages := vs ++ (t.feedAll cs).messages } := by
  rw [feedAll, h]

/-- Between calls a stream holds bytes that are incomplete, so what a run comes to is said of them
    and of all the bytes that are fed. -/
theorem feedAll_spec (s : Stream) (hs : read s.buffer = .incomplete) (cs : List (List UInt8)) :
    (s.feedAll cs).fault = faultIn (s.buffer ++ cs.flatten) ∧
      (s.feedAll cs).messages ++ (s.feedAll cs).lost = (wholes (s.buffer ++ cs.flatten)).1 ∧
      ((s.feedAll cs).fault = none →
        (s.feedAll cs).lost = [] ∧
          (s.feedAll cs).stream = ⟨(wholes (s.buffer ++ cs.flatten)).2⟩) := by
  induction cs generalizing s with
  | nil =>
    have hw : wholes s.buffer = ([], s.buffer) := wholes_of_not_done fun v rest => by simp [hs]
    have hf : faultIn s.buffer = none := by simp [faultIn, hw, hs, Reading.fault?]
    simp [feedAll, hw, hf]
  | cons c cs ih =>
    have hfeed := feed_eq s c
    rw [List.flatten_cons, ← List.append_assoc]
    cases hf : faultIn (s.buffer ++ c) with
    | some f =>
      rw [hf] at hfeed
      rw [feedAll_of_error hfeed, faultIn_append hf, wholes_append_of_faultIn hf]
      simp
    | none =>
      -- What waits after a call without a fault is incomplete again.
      rw [hf] at hfeed
      obtain ⟨ih1, ih2, ih3⟩ := ih ⟨(wholes (s.buffer ++ c)).2⟩ (read_wholes_of_faultIn hf)
      rw [feedAll_of_ok hfeed, faultIn_append_eq, wholes_append (s.buffer ++ c)]
      refine ⟨ih1, ?_, ih3⟩
      show _ ++ _ ++ _ = _ ++ _
      rw [List.append_assoc, ih2]

/-- Two ways of cutting the same bytes into chunks meet the same fault, or none. Without a fault
    they hand back the same values and wait with the same bytes. With one they hand back beginnings
    of the whole values in front of it, and differ exactly if the calls that meet it have lost
    different values. -/
theorem feedAll_of_flatten_eq {cs ds : List (List UInt8)} (h : cs.flatten = ds.flatten) :
    (empty.feedAll cs).fault = (empty.feedAll ds).fault ∧
      ((empty.feedAll cs).fault = none →
        (empty.feedAll cs).messages = (empty.feedAll ds).messages ∧
          (empty.feedAll cs).stream.pending? = (empty.feedAll ds).stream.pending?) ∧
      (empty.feedAll cs).messages ++ (empty.feedAll cs).lost = (wholes cs.flatten).1 ∧
      (empty.feedAll ds).messages ++ (empty.feedAll ds).lost = (wholes cs.flatten).1 ∧
      ((empty.feedAll cs).messages = (empty.feedAll ds).messages ↔
        (empty.feedAll cs).lost = (empty.feedAll ds).lost) := by
  obtain ⟨hfc, hmc, hnc⟩ := feedAll_spec empty read_nil cs
  obtain ⟨hfd, hmd, hnd⟩ := feedAll_spec empty read_nil ds
  rw [← h] at hfd hmd hnd
  have hfault := hfc.trans hfd.symm
  have hall := hmc.trans hmd.symm
  refine ⟨hfault, fun hnone => ⟨?_, ?_⟩, hmc, hmd, fun hm => ?_, fun hl => ?_⟩
  · rw [(hnc hnone).1, (hnd (hfault ▸ hnone)).1, List.append_nil, List.append_nil] at hall
    exact hall
  · rw [(hnc hnone).2, (hnd (hfault ▸ hnone)).2]
  · rw [hm] at hall
    exact List.append_cancel_left hall
  · rw [hl] at hall
    exact List.append_cancel_right hall

/-- A wrong byte is the same fault in a chunk of its own and behind a number in one chunk. -/
theorem feedAll_of_flatten_eq_number_behind_cut :
    [ascii "i1e", ascii "x"].flatten = [ascii "i1ex"].flatten ∧
      (empty.feedAll [ascii "i1e", ascii "x"]).fault = (empty.feedAll [ascii "i1ex"]).fault ∧
      ((empty.feedAll [ascii "i1e", ascii "x"]).messages =
          (empty.feedAll [ascii "i1ex"]).messages ↔
        (empty.feedAll [ascii "i1e", ascii "x"]).lost = (empty.feedAll [ascii "i1ex"]).lost) := by
  have h : [ascii "i1e", ascii "x"].flatten = [ascii "i1ex"].flatten := by decide
  obtain ⟨hfault, -, -, -, hsame⟩ := feedAll_of_flatten_eq h
  exact ⟨h, hfault, hsame⟩

/-- A number is handed back if its call ends with it, and lost if a byte that is wrong stands behind
    it in the chunk. -/
theorem feedAll_loses_number :
    [ascii "i1e", ascii "x"].flatten = [ascii "i1ex"].flatten ∧
      (empty.feedAll [ascii "i1e", ascii "x"]).messages = [.int 1] ∧
      (empty.feedAll [ascii "i1ex"]).messages = [] ∧
      (empty.feedAll [ascii "i1ex"]).lost = [.int 1] := by
  have hone : read (ascii "i1ex") = .done (.int 1) (ascii "x") := by cbv
  have hbare : read (ascii "i1e") = .done (.int 1) [] := by cbv
  have hx : read (ascii "x") = .malformed (.badMarker 120 0) := by cbv
  have hwx : wholes (ascii "x") = ([], ascii "x") := wholes_of_not_done fun v rest => by simp [hx]
  have hfeed : empty.feed (ascii "i1ex") = (.error (.badMarker 120 0), ⟨ascii "x"⟩) := by
    simp [feed_eq, empty, faultIn, wholes_of_done hone, hwx, hx, Reading.fault?]
  have hfirst : empty.feed (ascii "i1e") = (.ok [.int 1], empty) := by
    simp [feed_eq, empty, faultIn, wholes_of_done hbare, wholes_nil, read_nil, Reading.fault?]
  have hsecond : empty.feed (ascii "x") = (.error (.badMarker 120 0), ⟨ascii "x"⟩) := by
    simp [feed_eq, empty, faultIn, hwx, hx, Reading.fault?]
  refine ⟨by decide, ?_, ?_, ?_⟩
  · rw [feedAll_of_ok hfirst, feedAll_of_error hsecond]
    rfl
  · rw [feedAll_of_error hfeed]
  · rw [feedAll_of_error hfeed]
    simp [empty, wholes_of_done hone, hwx]

end Stream

end FormEdit.Bencode
