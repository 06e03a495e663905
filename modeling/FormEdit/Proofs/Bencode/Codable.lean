import FormEdit.Proofs.Bencode.Normal
import FormEdit.Proofs.Value.Inside

set_option autoImplicit false

/-! # Values that bencode has a form for

Texts, bytes, numbers, lists and dictionaries have a form in bencode (`Value.Codable`), but a text
has bytes only if it holds no surrogates. That no text inside a value holds any, keys among them
(`Value.Writable`), comes to what is asked of the parts (`writable_list_iff` and the like). -/

namespace FormEdit.Value

variable {u : Utf8.StandIns} {v : Value} {items : List Value} {entries : List (Value × Value)}
  {fields : List (String × Value)}

/-- A value of the kinds that bencode has: text, bytes, whole numbers that are printed, and lists,
    tuples and dictionaries of such values. The keys of a dictionary are texts, each there once. -/
inductive Codable : Value → Prop
  | text (s : String) : Codable (text s)
  | bytes (bs : List UInt8) : Codable (bytes bs)
  | int (n : Int) (digits : Numeral.printable n = true) : Codable (int n)
  | list (items : List Value) (each : ∀ v ∈ items, Codable v) : Codable (list items)
  | tuple (items : List Value) (each : ∀ v ∈ items, Codable v) : Codable (tuple items)
  | dict (fields : List (String × Value)) (distinct : (fields.map Prod.fst).Nodup)
    (each : ∀ f ∈ fields, Codable f.2) : Codable (ofFields fields)

/-- A value can be held if besides its lengths can be read. -/
theorem Storable.codable (h : v.Storable) : v.Codable := by
  induction h with
  | text s _ => exact .text s
  | bytes bs _ => exact .bytes bs
  | int n digits => exact .int n digits
  | list items _ ih => exact .list items ih
  | tuple items _ ih => exact .tuple items ih
  | dict fields distinct _ _ _ ih => exact .dict fields distinct ih

/-- Whether no text inside a value holds surrogates. -/
def Writable (u : Utf8.StandIns) (v : Value) : Prop :=
  ∀ w, Within w v → ∀ s, w = text s → Utf8.Writable u s.toList

theorem writable_text_iff {s : String} : (text s).Writable u ↔ Utf8.Writable u s.toList := by
  rw [Writable, forall_within_text]
  simp

theorem writable_bytes (bs : List UInt8) : (bytes bs).Writable u :=
  forall_within_bytes.2 nofun

theorem writable_int (n : Int) : (int n).Writable u :=
  forall_within_int.2 nofun

theorem writable_list_iff : (list items).Writable u ↔ ∀ v ∈ items, v.Writable u := by
  rw [Writable, forall_within_list]
  simp [Writable]

theorem writable_tuple_iff : (tuple items).Writable u ↔ ∀ v ∈ items, v.Writable u := by
  rw [Writable, forall_within_tuple]
  simp [Writable]

theorem writable_dict_iff :
    (dict entries).Writable u ↔ ∀ e ∈ entries, e.1.Writable u ∧ e.2.Writable u := by
  rw [Writable, forall_within_dict]
  simp [Writable]

theorem writable_ofFields_iff : (ofFields fields).Writable u ↔
    ∀ f ∈ fields, Utf8.Writable u f.1.toList ∧ f.2.Writable u := by
  rw [ofFields, writable_dict_iff, List.forall_mem_map]
  simp only [writable_text_iff]

/-- Where nothing stands for a surrogate no text holds one. -/
theorem writable_nil (v : Value) : v.Writable [] := fun _ _ _ _ _ _ => rfl

end FormEdit.Value
