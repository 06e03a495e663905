import FormEdit.Proofs.Bencode.Normal
import FormEdit.Proofs.Nrepl.Responses

set_option autoImplicit false

/-! # What a status says

The word `done`, in a list, in a text or as a key, ends an evaluation (`EndsEvaluation`), while
nothing can be looked for in a number other than zero, or in bytes that are no text
(`BreaksEvaluation`). A response says what its status says, unless it nests deeper than can be
shown (`verdictOf_eq_true_iff`, `verdictOf_eq_error_iff`). -/

namespace FormEdit

variable {response : EvalResponse} {status : Value} {f : Failure} {levels : Nat}

/-! ## Statuses -/

/-- A status that says that an evaluation is done. -/
inductive EndsEvaluation : Value → Prop
  | listed {items : List Value} (h : .text "done" ∈ items) : EndsEvaluation (.list items)
  | within {s : String} (h : containsText "done".toList s.toList = true) : EndsEvaluation (.text s)
  | keyed {entries : List (Value × Value)} (h : (Value.lookup "done" entries).isSome = true) :
    EndsEvaluation (.dict entries)

/-- A status that nothing can be looked for in, and what looking fails at. -/
inductive BreaksEvaluation : Value → Failure → Prop
  | number {n : Int} (h : n ≠ 0) :
    BreaksEvaluation (.int n) (.wrongKind "argument of type 'int' is not iterable")
  | bytes {bs : List UInt8} (alien : Bencode.ofBytes bs = .bytes bs) :
    BreaksEvaluation (.bytes bs) (.wrongKind "a bytes-like object is required, not 'str'")

theorem isText_iff {s : String} {v : Value} : v.isText s = true ↔ v = .text s := by
  cases v <;> simp [Value.isText]

theorem isNormal_of_lookup {key : String} (h : (Value.dict response).IsNormal)
    (hstatus : Value.lookup key response = some status) : status.IsNormal := by
  cases h with
  | dict fields _ each =>
    rw [Value.lookup, Option.map_eq_some_iff] at hstatus
    obtain ⟨entry, hfind, rfl⟩ := hstatus
    obtain ⟨field, hmem, rfl⟩ := List.mem_map.1 (List.mem_of_find?_eq_some hfind)
    exact each field hmem

theorem EndsEvaluation.truthy (h : EndsEvaluation status) : status.truthy = true := by
  cases h with
  | @listed items h =>
    have hne : items ≠ [] := List.ne_nil_of_mem h
    simpa [Value.truthy] using hne
  | @within s h =>
    have hne : s ≠ "" := by
      rintro rfl
      cases h
    simpa [Value.truthy] using hne
  | @keyed entries h =>
    have hne : entries ≠ [] := by
      rintro rfl
      cases h
    simpa [Value.truthy] using hne

theorem BreaksEvaluation.truthy (h : BreaksEvaluation status f) : status.truthy = true := by
  cases h with
  | number h => simpa [Value.truthy] using h
  | @bytes bs alien =>
    have hne : bs ≠ [] := by
      rintro rfl
      have hempty : Bencode.ofBytes [] = .text "" := Value.ofBytes_encode ""
      rw [hempty] at alien
      cases alien
    simpa [Value.truthy] using hne

theorem statusIsDone_eq_true_iff (h : status.IsNormal) :
    statusIsDone status = .ok true ↔ EndsEvaluation status := by
  constructor
  · intro hdone
    cases h with
    | text s => exact .within (Except.ok.inj hdone)
    | bytes bs alien => cases hdone
    | int n => cases hdone
    | list items each =>
      obtain ⟨item, hmem, hitem⟩ := List.any_eq_true.1 (Except.ok.inj hdone)
      rw [isText_iff] at hitem
      exact .listed (hitem ▸ hmem)
    | dict fields distinct each => exact .keyed (Except.ok.inj hdone)
  · rintro (hin | hin | hin)
    · exact congrArg Except.ok (List.any_eq_true.2 ⟨_, hin, isText_iff.2 rfl⟩)
    · exact congrArg Except.ok hin
    · exact congrArg Except.ok hin

theorem statusIsDone_eq_error_iff (h : status.IsNormal) (htruthy : status.truthy = true) :
    statusIsDone status = .error f ↔ BreaksEvaluation status f := by
  constructor
  · intro hfailure
    cases h with
    | text s => cases hfailure
    | bytes bs alien =>
      cases hfailure
      exact .bytes alien
    | int n =>
      cases hfailure
      exact .number (by simpa [Value.truthy] using htruthy)
    | list items each => cases hfailure
    | dict fields distinct each => cases hfailure
  · rintro (h | h) <;> rfl

/-- A response says by its status that an evaluation is done. -/
theorem responseIsDone_eq_true_iff (h : (Value.dict response).IsNormal) :
    responseIsDone response = .ok true ↔
      ∃ status, Value.lookup "status" response = some status ∧ EndsEvaluation status := by
  rw [responseIsDone]
  cases hstatus : Value.lookup "status" response with
  | none => simp
  | some status =>
    have hiff := statusIsDone_eq_true_iff (isNormal_of_lookup h hstatus)
    by_cases htruthy : status.truthy = true
    · simp [htruthy, hiff]
    · simp [htruthy, mt EndsEvaluation.truthy htruthy]

/-- A response in whose status nothing can be looked for is a misuse. -/
theorem responseIsDone_eq_error_iff (h : (Value.dict response).IsNormal) :
    responseIsDone response = .error f ↔
      ∃ status, Value.lookup "status" response = some status ∧ BreaksEvaluation status f := by
  rw [responseIsDone]
  cases hstatus : Value.lookup "status" response with
  | none => simp
  | some status =>
    have hnormal := isNormal_of_lookup h hstatus
    by_cases htruthy : status.truthy = true
    · simp [htruthy, statusIsDone_eq_error_iff hnormal htruthy]
    · simp [htruthy, mt BreaksEvaluation.truthy htruthy]

/-! ## Verdicts -/

theorem verdictOf_of_canShow (h : canShow levels response = true) :
    verdictOf levels response = responseIsDone response := if_pos h

theorem verdictOf_eq_true_iff :
    verdictOf levels response = .ok true ↔
      canShow levels response = true ∧ responseIsDone response = .ok true := by
  rw [verdictOf]
  split
  · next h => simp [h]
  · next h => simp [h]

theorem verdictOf_eq_error_iff :
    verdictOf levels response = .error f ↔
      canShow levels response = false ∧ f = .tooDeep ∨
        canShow levels response = true ∧ responseIsDone response = .error f := by
  rw [verdictOf]
  split
  · next h => simp [h]
  · next h => simp [h, eq_comm]

/-- What a misuse of a status fails at is no failure of a connection. -/
theorem responseIsDone_wrongKind (h : responseIsDone response = .error f) :
    ∃ message, f = .wrongKind message := by
  unfold responseIsDone at h
  split at h
  · cases h
  · next status _ =>
    split at h
    · cases status <;> cases h <;> exact ⟨_, rfl⟩
    · cases h

end FormEdit
