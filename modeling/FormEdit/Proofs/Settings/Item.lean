import FormEdit.Settings.Item

set_option autoImplicit false

/-! # Items as numbers and as text

Every item but one that holds a number too long can be shown as text (`Item.display?_eq_none_iff`),
and infinity alone is an error of its own where a whole number is wanted
(`Item.whole_eq_infinite_iff`). The names of a key lead down the tables one by one
(`Item.leadsTo_iff`). -/

namespace FormEdit.Toml.Item

/-! ## Numbers -/

/-- Whether an item is infinity, of either sign. -/
def IsInfinite (i : Item) : Prop :=
  ∃ x negative, i = .float x ∧ Binary.ofFloat x = .infinite negative

theorem not_isInfinite_text (s : String) : ¬ IsInfinite (.text s) := nofun

theorem not_isInfinite_int {n : Int} : ¬ IsInfinite (.int n) := nofun

theorem whole_eq_infinite_iff {i : Item} : i.whole = .error .infinite ↔ i.IsInfinite := by
  constructor
  · intro h
    cases i with
    | float x =>
      cases hx : Binary.ofFloat x with
      | infinite negative => exact ⟨x, negative, rfl, hx⟩
      | nan => simp [whole, value, Value.whole, hx] at h
      | finite => simp [whole, value, Value.whole, hx] at h
    | text s =>
      simp only [whole, value, Value.whole] at h
      split at h <;> cases h
    | _ => cases h
  · rintro ⟨x, negative, rfl, hx⟩
    simp [whole, value, Value.whole, hx]

/-! ## Text -/

/-- Whether an item is a whole number that is too long to be printed, or holds one. -/
inductive HoldsLong : Item → Prop
  | int {n : Int} (h : Numeral.printable n = false) : HoldsLong (.int n)
  | array {items : List Item} {i : Item} (hi : i ∈ items) (h : HoldsLong i) :
    HoldsLong (.array items)
  | table {entries : Table} {k : String} {i : Item} (hi : (k, i) ∈ entries) (h : HoldsLong i) :
    HoldsLong (.table entries)

theorem not_holdsLong_text (s : String) : ¬ HoldsLong (.text s) := nofun

theorem holdsLong_int {n : Int} : HoldsLong (.int n) ↔ Numeral.printable n = false :=
  ⟨fun h => by cases h; assumption, .int⟩

theorem holdsLong_array {items : List Item} :
    HoldsLong (.array items) ↔ ∃ i ∈ items, HoldsLong i := by
  constructor
  · rintro (_ | ⟨hi, h⟩)
    exact ⟨_, hi, h⟩
  · rintro ⟨i, hi, h⟩
    exact .array hi h

theorem holdsLong_table {entries : Table} :
    HoldsLong (.table entries) ↔ ∃ e ∈ entries, HoldsLong e.2 := by
  constructor
  · rintro (_ | _ | ⟨hi, h⟩)
    exact ⟨_, hi, h⟩
  · rintro ⟨e, hi, h⟩
    exact .table hi h

mutual

theorem quotedForm_eq_none_iff : ∀ i : Item, i.quotedForm = none ↔ i.HoldsLong
  | .int n => by
    rw [holdsLong_int, quotedForm]
    cases Numeral.printable n <;> simp
  | .array items => by
    rw [holdsLong_array, quotedForm, Option.map_eq_none_iff, quotedForms_eq_none_iff]
  | .table entries => by
    rw [holdsLong_table, quotedForm, Option.map_eq_none_iff, quotedEntries_eq_none_iff]
  | .bool _ | .float _ | .text _ | .moment _ => ⟨nofun, nofun⟩

theorem quotedForms_eq_none_iff :
    ∀ items : List Item, quotedForms items = none ↔ ∃ i ∈ items, i.HoldsLong
  | [] => by simp [quotedForms]
  | i :: r => by
    simp only [List.mem_cons, exists_eq_or_imp, quotedForms]
    rw [← quotedForm_eq_none_iff i, ← quotedForms_eq_none_iff r]
    cases i.quotedForm <;> simp

theorem quotedEntries_eq_none_iff :
    ∀ entries : Table, quotedEntries entries = none ↔ ∃ e ∈ entries, e.2.HoldsLong
  | [] => by simp [quotedEntries]
  | (k, i) :: r => by
    simp only [List.mem_cons, exists_eq_or_imp, quotedEntries]
    rw [← quotedForm_eq_none_iff i, ← quotedEntries_eq_none_iff r]
    cases i.quotedForm <;> simp

end

/-- An item cannot be shown exactly if it holds a number that is too long. -/
theorem display?_eq_none_iff {i : Item} : i.display? = none ↔ i.HoldsLong := by
  cases i with
  | text s => exact ⟨nofun, fun h => absurd h (not_holdsLong_text s)⟩
  | moment m => exact ⟨nofun, nofun⟩
  | _ => exact quotedForm_eq_none_iff _

/-! ## Keys -/

/-- Whether names lead from an item to an item, down through the tables that stand under them. -/
inductive LeadsTo : List String → Item → Item → Prop
  | here (i : Item) : LeadsTo [] i i
  | down {name : String} {rest : List String} {entries : Table} {i j : Item}
    (hi : entries.lookup name = some i) (h : LeadsTo rest i j) :
    LeadsTo (name :: rest) (.table entries) j

theorem leadsTo_iff {names : List String} {i j : Item} :
    LeadsTo names i j ↔ at? names i = some j := by
  constructor
  · intro h
    induction h with
    | here i => cases i <;> rfl
    | down hi _ ih => simp only [at?, hi, ih]
  · intro h
    induction names generalizing i with
    | nil =>
      obtain rfl : i = j := by cases i <;> simpa [at?] using h
      exact .here i
    | cons name rest ih =>
      cases i with
      | table entries =>
        cases hi : entries.lookup name with
        | some inner => exact .down hi (ih (by simpa [at?, hi] using h))
        | none => simp [at?, hi] at h
      | _ => simp [at?] at h

end FormEdit.Toml.Item
