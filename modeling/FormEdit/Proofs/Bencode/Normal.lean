import FormEdit.Bencode.Decode
import FormEdit.Proofs.Value.Fields
import Mathlib.Data.List.Perm.Subperm

set_option autoImplicit false

/-! # Normal forms of values

Bencode tells no tuples from lists and no bytes from text where they are UTF-8, and it keeps the
entries of a dictionary in order of their keys. The normal form of a value (`Value.normal`) is what
is left of it but for this order. Equality of normal forms, where the order of entries does not
matter, is the same as being equal once the entries are put in order at every depth
(`Value.IsNormal.same_iff`). -/

namespace FormEdit.Value

open Bencode (ofBytes)

variable {fs gs : List (String × Value)} {a b v : Value}

/-! ## Normal forms -/

mutual

/-- What bencode keeps of a value: text in the place of bytes that are UTF-8, and lists in the place
    of tuples. -/
def normal : Value → Value
  | bytes bs => ofBytes bs
  | list items => list (normalItems items)
  | tuple items => list (normalItems items)
  | dict entries => dict (normalEntries entries)
  | v => v

def normalItems : List Value → List Value
  | [] => []
  | v :: r => normal v :: normalItems r

def normalEntries : List (Value × Value) → List (Value × Value)
  | [] => []
  | (k, v) :: r => (k, normal v) :: normalEntries r

end

mutual

/-- A value with the entries of its dictionaries in order, at every depth. -/
def sorted : Value → Value
  | list items => list (sortedItems items)
  | dict entries => dict (sortEntries (sortedEntries entries))
  | v => v

def sortedItems : List Value → List Value
  | [] => []
  | v :: r => sorted v :: sortedItems r

def sortedEntries : List (Value × Value) → List (Value × Value)
  | [] => []
  | (k, v) :: r => (k, sorted v) :: sortedEntries r

end

theorem normal_list (items : List Value) : (list items).normal = list (items.map normal) := by
  have h : ∀ items, normalItems items = items.map normal := by
    intro items
    induction items with
    | nil => rfl
    | cons v r ih => rw [normalItems, ih, List.map_cons]
  rw [normal, h]

theorem normal_tuple (items : List Value) : (tuple items).normal = list (items.map normal) := by
  rw [← normal_list, normal, normal]

theorem normal_ofFields (fields : List (String × Value)) :
    (ofFields fields).normal = ofFields (fields.map fun f => (f.1, f.2.normal)) := by
  have h : ∀ fields : List (String × Value), normalEntries (fields.map fun f => (text f.1, f.2)) =
      (fields.map fun f => (f.1, f.2.normal)).map fun f => (text f.1, f.2) := by
    intro fields
    induction fields with
    | nil => rfl
    | cons f r ih => simp only [List.map_cons, normalEntries, ih]
  rw [ofFields, normal, h, ofFields]

theorem sorted_list (items : List Value) : (list items).sorted = list (items.map sorted) := by
  have h : ∀ items, sortedItems items = items.map sorted := by
    intro items
    induction items with
    | nil => rfl
    | cons v r ih => rw [sortedItems, ih, List.map_cons]
  rw [sorted, h]

theorem sorted_ofFields (fields : List (String × Value)) :
    (ofFields fields).sorted = ofFields (sortFields (fields.map fun f => (f.1, f.2.sorted))) := by
  have h : ∀ fields : List (String × Value), sortedEntries (fields.map fun f => (text f.1, f.2)) =
      (fields.map fun f => (f.1, f.2.sorted)).map fun f => (text f.1, f.2) := by
    intro fields
    induction fields with
    | nil => rfl
    | cons f r ih => simp only [List.map_cons, sortedEntries, ih]
  rw [ofFields, sorted, h, sortEntries_ofFields, ofFields]

theorem ofFields_inj : ofFields fs = ofFields gs ↔ fs = gs := by
  have hinj : Function.Injective fun f : String × Value => (text f.1, f.2) := by
    rintro ⟨s, v⟩ ⟨t, w⟩ hvw
    simpa using hvw
  rw [ofFields, ofFields, dict.injEq, (List.map_injective_iff.2 hinj).eq_iff]

/-- A value in normal form: text, bytes that are no UTF-8, whole numbers, and lists and dictionaries
    of such values. The keys of a dictionary are texts, each there once. -/
inductive IsNormal : Value → Prop
  | text (s : String) : IsNormal (text s)
  | bytes (bs : List UInt8) (alien : ofBytes bs = bytes bs) : IsNormal (bytes bs)
  | int (n : Int) : IsNormal (int n)
  | list (items : List Value) (each : ∀ v ∈ items, IsNormal v) : IsNormal (list items)
  | dict (fields : List (String × Value)) (distinct : (fields.map Prod.fst).Nodup)
    (each : ∀ f ∈ fields, IsNormal f.2) : IsNormal (ofFields fields)

theorem sameItems_iff {as bs : List Value}
    (h : ∀ a ∈ as, ∀ b ∈ bs, same a b = true ↔ a.sorted = b.sorted) :
    sameItems as bs = true ↔ as.map sorted = bs.map sorted := by
  induction as generalizing bs with
  | nil => cases bs <;> simp [sameItems]
  | cons a as ih =>
    cases bs with
    | nil => simp [sameItems]
    | cons b bs =>
      have hhead := h a List.mem_cons_self b List.mem_cons_self
      have heach : ∀ x ∈ as, ∀ y ∈ bs, same x y = true ↔ x.sorted = y.sorted := fun x hx y hy =>
        h x (List.mem_cons_of_mem a hx) y (List.mem_cons_of_mem b hy)
      simp [sameItems, hhead, ih heach]

theorem entriesIn_iff (as bs : List (Value × Value)) :
    entriesIn as bs = true ↔ ∀ a ∈ as, ∃ b ∈ bs, same a.1 b.1 = true ∧ same a.2 b.2 = true := by
  induction as with
  | nil => simp [entriesIn]
  | cons a as ih =>
    obtain ⟨k, v⟩ := a
    simp [entriesIn, ih]

theorem entriesIn_fields_iff
    (h : ∀ f ∈ fs, ∀ g ∈ gs, same f.2 g.2 = true ↔ f.2.sorted = g.2.sorted) :
    entriesIn (fs.map fun f => (text f.1, f.2)) (gs.map fun f => (text f.1, f.2)) = true ↔
      (fs.map fun f => (f.1, f.2.sorted)) ⊆ gs.map fun f => (f.1, f.2.sorted) := by
  rw [entriesIn_iff, List.forall_mem_map, List.subset_def, List.forall_mem_map]
  refine forall₂_congr fun f hf => ?_
  constructor
  · rintro ⟨_, hb, hname, hsame⟩
    obtain ⟨g, hg, rfl⟩ := List.mem_map.1 hb
    rw [same_text_iff.1 hname, (h f hf g hg).1 hsame]
    exact List.mem_map_of_mem hg
  · intro hmem
    obtain ⟨g, hg, heq⟩ := List.mem_map.1 hmem
    obtain ⟨hname, hsorted⟩ := Prod.mk.inj heq
    exact ⟨_, List.mem_map_of_mem hg, same_text_iff.2 hname.symm, (h f hf g hg).2 hsorted.symm⟩

/-- Dictionaries with distinct names are equal if they have the same fields, in any order. -/
theorem same_ofFields_iff (hf : (fs.map Prod.fst).Nodup)
    (h : ∀ f ∈ fs, ∀ g ∈ gs, same f.2 g.2 = true ↔ f.2.sorted = g.2.sorted) :
    same (ofFields fs) (ofFields gs) = true ↔ (ofFields fs).sorted = (ofFields gs).sorted := by
  have hnames := nodup_names_map hf sorted
  rw [sorted_ofFields, sorted_ofFields, ofFields_inj, sortFields_eq_iff hnames, ofFields, ofFields,
    same, Bool.and_eq_true, beq_iff_eq, entriesIn_fields_iff h, List.length_map, List.length_map]
  constructor
  · rintro ⟨hlen, hsub⟩
    have hsubperm := List.subperm_of_subset (List.Nodup.of_map Prod.fst hnames) hsub
    exact hsubperm.perm_of_length_le (by simp [hlen])
  · intro hperm
    exact ⟨by simpa using hperm.length_eq, hperm.subset⟩

/-- Equality of normal forms is the same as being equal with all entries in order. -/
theorem IsNormal.same_iff (ha : a.IsNormal) (hb : b.IsNormal) :
    same a b = true ↔ a.sorted = b.sorted := by
  induction ha generalizing b with
  | text s => cases hb <;> simp [same, magnitude?, sorted, ofFields]
  | bytes bs _ => cases hb <;> simp [same, magnitude?, sorted, ofFields]
  | int n => cases hb <;> simp [same, magnitude?, sorted, ofFields, Magnitude.same]
  | list items _ ih =>
    cases hb with
    | list others hothers =>
      rw [same, sorted_list, sorted_list, sameItems_iff fun a ha b hb => ih a ha (hothers b hb)]
      simp
    | _ => simp [same, magnitude?, sorted, ofFields]
  | dict fields hd _ ih =>
    cases hb with
    | dict others hothers heach =>
      exact same_ofFields_iff hd fun f hf g hg => ih f hf (heach g hg)
    | _ => simp [same, magnitude?, sorted, ofFields]

theorem IsNormal.normal_eq (h : v.IsNormal) : v.normal = v := by
  induction h with
  | text s => rfl
  | bytes bs alien => exact alien
  | int n => rfl
  | list items _ ih =>
    rw [normal_list, List.map_congr_left ih, List.map_id']
  | dict fields _ _ ih =>
    have hfields : fields.map (fun f => (f.1, f.2.normal)) = fields := by
      have hid : ∀ f ∈ fields, (f.1, f.2.normal) = f := fun f hf => by rw [ih f hf]
      rw [List.map_congr_left hid, List.map_id']
    rw [normal_ofFields, hfields]

theorem IsNormal.sorted (h : v.IsNormal) : v.sorted.IsNormal := by
  induction h with
  | text s => exact .text s
  | bytes bs alien => exact .bytes bs alien
  | int n => exact .int n
  | list items _ ih =>
    rw [sorted_list]
    exact .list _ (List.forall_mem_map.2 ih)
  | dict fields distinct _ ih =>
    have hperm := sortFields_perm (fields.map fun f => (f.1, f.2.sorted))
    rw [sorted_ofFields]
    refine .dict _ ?_ fun w hw => ?_
    · exact nodup_names_sortFields (nodup_names_map distinct Value.sorted)
    · obtain ⟨f, hf, rfl⟩ := List.mem_map.1 (hperm.mem_iff.1 hw)
      exact ih f hf

theorem IsNormal.sorted_sorted (h : v.IsNormal) : v.sorted.sorted = v.sorted := by
  induction h with
  | text s => rfl
  | bytes bs _ => rfl
  | int n => rfl
  | list items _ ih =>
    rw [sorted_list, sorted_list, List.map_map]
    exact congrArg Value.list (List.map_congr_left ih)
  | dict fields distinct _ ih =>
    have hfields : ((fields.map fun f => (f.1, f.2.sorted)).map fun f => (f.1, f.2.sorted)) =
        fields.map fun f => (f.1, f.2.sorted) := by
      rw [List.map_map]
      exact List.map_congr_left fun f hf => congrArg (Prod.mk f.1) (ih f hf)
    have hnames := nodup_names_map distinct Value.sorted
    rw [sorted_ofFields, sorted_ofFields, ← sortFields_map, hfields, ofFields_inj]
    exact (sortFields_eq_iff (nodup_names_sortFields hnames)).2 (sortFields_perm _)

/-- Putting the entries in order makes no difference to equality. -/
theorem IsNormal.same_sorted (h : v.IsNormal) : same v.sorted v = true :=
  (h.sorted.same_iff h).2 h.sorted_sorted

/-! ## Values that bencode can hold -/

/-- A value that bencode can hold: text, bytes, whole numbers, and lists, tuples and dictionaries of
    such values. The keys of a dictionary are texts, each there once. Numbers are printed, those
    that count bytes too, so none has more digits than can be read. -/
inductive Storable : Value → Prop
  | text (s : String) (length : Numeral.printable (Utf8.encode s.toList).length = true) :
    Storable (text s)
  | bytes (bs : List UInt8) (length : Numeral.printable bs.length = true) : Storable (bytes bs)
  | int (n : Int) (digits : Numeral.printable n = true) : Storable (int n)
  | list (items : List Value) (each : ∀ v ∈ items, Storable v) : Storable (list items)
  | tuple (items : List Value) (each : ∀ v ∈ items, Storable v) : Storable (tuple items)
  | dict (fields : List (String × Value)) (distinct : (fields.map Prod.fst).Nodup)
    (keys : ∀ f ∈ fields, Storable (.text f.1)) (each : ∀ f ∈ fields, Storable f.2) :
    Storable (ofFields fields)

theorem Storable.length_name {s : String} (h : (Value.text s).Storable) :
    Numeral.printable (Utf8.encode s.toList).length = true := by
  cases h with
  | text _ length => exact length

/-- Bytes are text that is written with them, or stay as they are. -/
theorem ofBytes_cases (bs : List UInt8) :
    (∃ s, ofBytes bs = text s ∧ Utf8.encode s.toList = bs) ∨ ofBytes bs = bytes bs := by
  rw [ofBytes]
  cases h : Utf8.decode bs with
  | ok t => exact .inl ⟨_, rfl, by rw [String.toList_ofList, Utf8.encode_of_decode h]⟩
  | error f => exact .inr rfl

theorem ofBytes_encode (s : String) : ofBytes (Utf8.encode s.toList) = text s := by
  rw [ofBytes, Utf8.decode_encode]
  exact congrArg text (String.ofList_toList)

theorem sorted_ofBytes (bs : List UInt8) : (ofBytes bs).sorted = ofBytes bs := by
  rcases ofBytes_cases bs with ⟨s, h, -⟩ | h
  · rw [h]
    rfl
  · rw [h]
    rfl

theorem IsNormal.ofBytes (bs : List UInt8) : (ofBytes bs).IsNormal := by
  rcases ofBytes_cases bs with ⟨s, h, -⟩ | h
  · rw [h]
    exact .text s
  · rw [h]
    exact .bytes bs h

theorem Storable.ofBytes {bs : List UInt8} (length : Numeral.printable bs.length = true) :
    (ofBytes bs).Storable := by
  rcases ofBytes_cases bs with ⟨s, h, hs⟩ | h
  · subst hs
    rw [h]
    exact .text s length
  · rw [h]
    exact .bytes bs length

theorem Storable.isNormal (h : v.Storable) : v.normal.IsNormal := by
  induction h with
  | text s _ => exact .text s
  | bytes bs _ => exact .ofBytes bs
  | int n _ => exact .int n
  | list items _ ih =>
    rw [normal_list]
    exact .list _ (List.forall_mem_map.2 ih)
  | tuple items _ ih =>
    rw [normal_tuple]
    exact .list _ (List.forall_mem_map.2 ih)
  | dict fields distinct _ _ _ ih =>
    rw [normal_ofFields]
    exact .dict _ (nodup_names_map distinct normal) (List.forall_mem_map.2 ih)

theorem sorted_normal_list (items : List Value) :
    (list items).normal.sorted = list (items.map fun v => v.normal.sorted) := by
  rw [normal_list, sorted_list, List.map_map]
  rfl

theorem sorted_normal_tuple (items : List Value) :
    (tuple items).normal.sorted = list (items.map fun v => v.normal.sorted) := by
  rw [normal_tuple, ← normal_list, sorted_normal_list]

theorem sorted_normal_ofFields (fields : List (String × Value)) :
    (ofFields fields).normal.sorted =
      ofFields ((sortFields fields).map fun f => (f.1, f.2.normal.sorted)) := by
  rw [normal_ofFields, sorted_ofFields, List.map_map, ← sortFields_map fun v => v.normal.sorted]
  rfl

/-- The normal form can be held too. -/
theorem Storable.sorted_normal (h : v.Storable) : v.normal.sorted.Storable := by
  induction h with
  | text s length => exact .text s length
  | bytes bs length =>
    rw [normal, sorted_ofBytes]
    exact .ofBytes length
  | int n digits => exact .int n digits
  | list items _ ih =>
    rw [sorted_normal_list]
    exact .list _ (List.forall_mem_map.2 ih)
  | tuple items _ ih =>
    rw [sorted_normal_tuple]
    exact .list _ (List.forall_mem_map.2 ih)
  | dict fields distinct keys _ _ ih =>
    have hperm := sortFields_perm fields
    rw [sorted_normal_ofFields]
    refine .dict _ ?_ ?_ ?_
    · exact nodup_names_map (nodup_names_sortFields distinct) fun v => v.normal.sorted
    · exact List.forall_mem_map.2 fun f hf => keys f (hperm.mem_iff.1 hf)
    · exact List.forall_mem_map.2 fun f hf => ih f (hperm.mem_iff.1 hf)

end FormEdit.Value
