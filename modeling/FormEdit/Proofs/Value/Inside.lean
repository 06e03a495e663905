import FormEdit.Value.Basic

set_option autoImplicit false

/-! # Values inside of values

A value holds those that stand in it at any depth, as items of a list or tuple or as keys and values
of a dictionary. What holds of a value if it holds of all that is directly inside holds of every
value (`Value.inside_induction`). -/

namespace FormEdit.Value

/-- Induction over what is directly inside of a value. -/
@[elab_as_elim]
theorem inside_induction {motive : Value → Prop} (null : motive null) (bool : ∀ b, motive (bool b))
    (int : ∀ n, motive (int n)) (float : ∀ x, motive (float x)) (text : ∀ s, motive (text s))
    (bytes : ∀ bs, motive (bytes bs))
    (list : ∀ items, (∀ v ∈ items, motive v) → motive (list items))
    (tuple : ∀ items, (∀ v ∈ items, motive v) → motive (tuple items))
    (dict : ∀ entries, (∀ e ∈ entries, motive e.1 ∧ motive e.2) → motive (dict entries))
    (v : Value) : motive v := by
  refine @Value.rec motive (fun items => ∀ v ∈ items, motive v)
    (fun entries => ∀ e ∈ entries, motive e.1 ∧ motive e.2) (fun e => motive e.1 ∧ motive e.2)
    null bool int float text bytes list tuple dict ?_ ?_ ?_ ?_ ?_ v
  · exact List.forall_mem_nil _
  · exact fun v items hv hitems => List.forall_mem_cons.2 ⟨hv, hitems⟩
  · exact List.forall_mem_nil _
  · exact fun e entries he hentries => List.forall_mem_cons.2 ⟨he, hentries⟩
  · exact fun k v hk hv => ⟨hk, hv⟩

/-- Whether `w` is `v` or stands in it, at any depth. -/
inductive Within (w : Value) : Value → Prop
  | self : Within w w
  | item {items : List Value} {v : Value} (mem : v ∈ items) (inside : Within w v) :
    Within w (list items)
  | component {items : List Value} {v : Value} (mem : v ∈ items) (inside : Within w v) :
    Within w (tuple items)
  | key {entries : List (Value × Value)} {e : Value × Value} (mem : e ∈ entries)
    (inside : Within w e.1) : Within w (dict entries)
  | value {entries : List (Value × Value)} {e : Value × Value} (mem : e ∈ entries)
    (inside : Within w e.2) : Within w (dict entries)

variable {P : Value → Prop} {items : List Value} {entries : List (Value × Value)}

theorem forall_within_text {s : String} : (∀ w, Within w (text s) → P w) ↔ P (text s) := by
  refine ⟨fun h => h _ .self, fun h w hw => ?_⟩
  cases hw
  exact h

theorem forall_within_bytes {bs : List UInt8} :
    (∀ w, Within w (bytes bs) → P w) ↔ P (bytes bs) := by
  refine ⟨fun h => h _ .self, fun h w hw => ?_⟩
  cases hw
  exact h

theorem forall_within_int {n : Int} : (∀ w, Within w (int n) → P w) ↔ P (int n) := by
  refine ⟨fun h => h _ .self, fun h w hw => ?_⟩
  cases hw
  exact h

theorem forall_within_list :
    (∀ w, Within w (list items) → P w) ↔
      P (list items) ∧ ∀ v ∈ items, ∀ w, Within w v → P w := by
  refine ⟨fun h => ⟨h _ .self, fun v hv w hw => h w (.item hv hw)⟩, fun ⟨h, hitems⟩ w hw => ?_⟩
  cases hw with
  | self => exact h
  | item mem inside => exact hitems _ mem w inside

theorem forall_within_tuple :
    (∀ w, Within w (tuple items) → P w) ↔
      P (tuple items) ∧ ∀ v ∈ items, ∀ w, Within w v → P w := by
  refine ⟨fun h => ⟨h _ .self, fun v hv w hw => h w (.component hv hw)⟩,
    fun ⟨h, hitems⟩ w hw => ?_⟩
  cases hw with
  | self => exact h
  | component mem inside => exact hitems _ mem w inside

theorem forall_within_dict :
    (∀ w, Within w (dict entries) → P w) ↔ P (dict entries) ∧
      ∀ e ∈ entries, (∀ w, Within w e.1 → P w) ∧ ∀ w, Within w e.2 → P w := by
  refine ⟨fun h => ⟨h _ .self, fun e he => ⟨fun w hw => h w (.key he hw),
    fun w hw => h w (.value he hw)⟩⟩, fun ⟨h, hentries⟩ w hw => ?_⟩
  cases hw with
  | self => exact h
  | key mem inside => exact (hentries _ mem).1 w inside
  | value mem inside => exact (hentries _ mem).2 w inside

end FormEdit.Value
