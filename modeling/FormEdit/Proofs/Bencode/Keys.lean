import FormEdit.Proofs.Bencode.ReadBack
import FormEdit.Proofs.Value.Inside

set_option autoImplicit false

/-! # Keys that can be read

Any value may be a key, but only text and bytes are read as one, by the name that they spell. What is
asked of keys here is asked of each dictionary inside a value, at any depth, and comes to what is
asked of the parts (`legible_list_iff` and the like). -/

namespace FormEdit

namespace Value

/-- The bytes of a string. -/
def stringBytes? : Value → Option (List UInt8)
  | text s => some (Utf8.encode s.toList)
  | bytes bs => some bs
  | _ => none

/-- The entries of a dictionary. -/
def entries : Value → List (Value × Value)
  | dict entries => entries
  | _ => []

/-- The name as which a key is read. -/
def name? (k : Value) : Option String := k.stringBytes?.map Bencode.nameText

/-- Whether all keys of dictionaries in a value are strings, and all strings have lengths with few
    enough digits. -/
def Legible (v : Value) : Prop :=
  ∀ w, Within w v → (∀ bs ∈ w.stringBytes?, Numeral.printable bs.length = true) ∧
    ∀ e ∈ w.entries, e.1.stringBytes?.isSome = true

/-- Whether the keys of each dictionary in a value are read as different names. -/
def DistinctNames (v : Value) : Prop :=
  ∀ w, Within w v → (w.entries.map fun e => e.1.name?).Nodup

/-- Whether `w` is what `v` should be read back as: strings as text where they are UTF-8, tuples as
    lists, and dictionaries with one field for each entry. -/
inductive Keeps : Value → Value → Prop
  | string {v w : Value} {bs : List UInt8} (bytes : v.stringBytes? = some bs)
    (read : w = Bencode.ofBytes bs) : Keeps v w
  | int (n : Int) : Keeps (int n) (int n)
  | list {items ws : List Value} (each : List.Forall₂ Keeps items ws) :
    Keeps (list items) (list ws)
  | tuple {items ws : List Value} (each : List.Forall₂ Keeps items ws) :
    Keeps (tuple items) (list ws)
  | dict {entries : List (Value × Value)} {fields : List (String × Value)}
    (value : Value × Value → Value) (size : fields.length = entries.length)
    (each : ∀ e ∈ entries, Keeps e.2 (value e))
    (present : ∀ e ∈ entries, ∃ name, e.1.name? = some name ∧ (name, value e) ∈ fields) :
    Keeps (dict entries) (ofFields fields)

end Value

namespace Value

variable {v w : Value} {items ws : List Value} {n : Int}

theorem distinctNames_of_string {bs : List UInt8} (h : v.stringBytes? = some bs) :
    v.DistinctNames := by
  cases v with
  | text s => exact forall_within_text.2 .nil
  | bytes bs => exact forall_within_bytes.2 .nil
  | _ => cases h

theorem legible_text_iff {s : String} :
    (text s).Legible ↔ Numeral.printable (Utf8.encode s.toList).length = true := by
  rw [Legible, forall_within_text]
  simp [stringBytes?, entries]

theorem legible_bytes_iff {bs : List UInt8} :
    (bytes bs).Legible ↔ Numeral.printable bs.length = true := by
  rw [Legible, forall_within_bytes]
  simp [stringBytes?, entries]

theorem legible_int : (int n).Legible := by
  rw [Legible, forall_within_int]
  simp [stringBytes?, entries]

theorem distinctNames_int : (int n).DistinctNames := forall_within_int.2 .nil

theorem legible_list_iff : (list items).Legible ↔ ∀ v ∈ items, v.Legible := by
  rw [Legible, forall_within_list]
  simp [stringBytes?, entries, Legible]

theorem distinctNames_list_iff :
    (list items).DistinctNames ↔ ∀ v ∈ items, v.DistinctNames := by
  rw [DistinctNames, forall_within_list]
  simp [entries, DistinctNames]

theorem legible_tuple_iff : (tuple items).Legible ↔ ∀ v ∈ items, v.Legible := by
  rw [Legible, forall_within_tuple]
  simp [stringBytes?, entries, Legible]

theorem distinctNames_tuple_iff :
    (tuple items).DistinctNames ↔ ∀ v ∈ items, v.DistinctNames := by
  rw [DistinctNames, forall_within_tuple]
  simp [entries, DistinctNames]

namespace Keeps

theorem list_iff : Keeps (.list items) (.list ws) ↔ List.Forall₂ Keeps items ws := by
  refine ⟨fun h => ?_, .list⟩
  cases h with
  | string bytes _ => cases bytes
  | list each => exact each

theorem tuple_iff : Keeps (.tuple items) (.list ws) ↔ List.Forall₂ Keeps items ws := by
  refine ⟨fun h => ?_, .tuple⟩
  cases h with
  | string bytes _ => cases bytes
  | tuple each => exact each

theorem exists_fields {entries : List (Value × Value)} (h : Keeps (.dict entries) w) :
    ∃ (fields : List (String × Value)) (value : Value × Value → Value), w = ofFields fields ∧
      fields.length = entries.length ∧ (∀ e ∈ entries, Keeps e.2 (value e)) ∧
      ∀ e ∈ entries, ∃ name, e.1.name? = some name ∧ (name, value e) ∈ fields := by
  cases h with
  | string bytes _ => cases bytes
  | dict value size each present => exact ⟨_, value, rfl, size, each, present⟩

end Keeps

end Value

end FormEdit
