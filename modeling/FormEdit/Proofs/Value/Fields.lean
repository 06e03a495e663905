import FormEdit.Proofs.Text.Utf8
import FormEdit.Value.Order
import Mathlib.Data.List.Induction
import Mathlib.Data.List.Nodup

set_option autoImplicit false

/-! # Dictionaries with named fields

The entries of a dictionary have one order by their names (`sortFields_eq_iff`): names are compared
by their bytes, and different names have different bytes. A field that is put into a dictionary
comes behind all others if its name is new, and else takes the place of the one with its name. -/

namespace FormEdit.Value

/-! ## Dictionaries in order -/

/-- The place of a key in the order of keys: its bytes. -/
def rank : Value → List Nat
  | text s => (Utf8.encode s.toList).map UInt8.toNat
  | _ => []

/-- Whether a key may stand before another: it does not come behind it. -/
def precedes (a b : Value) : Bool := !decide (b.rank < a.rank)

/-- The entries of a dictionary in order of their keys. -/
def sortEntries (entries : List (Value × Value)) : List (Value × Value) :=
  entries.mergeSort fun a b => a.1.precedes b.1

/-- Named fields in order of their names. -/
def sortFields (fields : List (String × Value)) : List (String × Value) :=
  fields.mergeSort fun a b => (text a.1).precedes (text b.1)

variable {fields fs gs : List (String × Value)} {a b c v : Value}

theorem precedes_iff : a.precedes b = true ↔ ¬ b.rank < a.rank := by
  rw [precedes, Bool.not_eq_true', decide_eq_false_iff_not]

theorem precedes_of_lt (h : a.rank < b.rank) : a.precedes b = true :=
  precedes_iff.2 (List.lt_asymm h)

theorem precedes_trans (hab : a.precedes b = true) (hbc : b.precedes c = true) :
    a.precedes c = true :=
  precedes_iff.2 (List.le_trans (precedes_iff.1 hab) (precedes_iff.1 hbc))

theorem precedes_total (a b : Value) : a.precedes b = true ∨ b.precedes a = true := by
  rw [precedes_iff, precedes_iff]
  exact List.le_total a.rank b.rank

theorem rank_text_injective {s t : String} (h : (text s).rank = (text t).rank) : s = t := by
  have hbytes : Utf8.encode s.toList = Utf8.encode t.toList :=
    List.map_injective_iff.2 (fun x y => UInt8.toNat_inj.1) h
  exact String.toList_inj.1 (Utf8.encode_injective hbytes)

theorem sortFields_perm (fields : List (String × Value)) : (sortFields fields).Perm fields :=
  List.mergeSort_perm ..

theorem nodup_names_sortFields (h : (fields.map Prod.fst).Nodup) :
    ((sortFields fields).map Prod.fst).Nodup :=
  ((sortFields_perm fields).map Prod.fst).nodup_iff.2 h

/-- Distinct names stay distinct when the values of fields are exchanged. -/
theorem nodup_names_map (hf : (fs.map Prod.fst).Nodup) (f : Value → Value) :
    ((fs.map fun e => (e.1, f e.2)).map Prod.fst).Nodup := by
  rw [List.map_map]
  exact hf

theorem pairwise_sortFields (fields : List (String × Value)) :
    (sortFields fields).Pairwise fun a b => (text a.1).precedes (text b.1) = true := by
  refine List.pairwise_mergeSort (fun a b c hab hbc => ?_) (fun a b => ?_) fields
  · exact precedes_trans hab hbc
  · rw [Bool.or_eq_true]
    exact precedes_total _ _

/-- Fields with distinct names are in one order only. -/
theorem eq_of_perm_of_pairwise (hd : (fs.map Prod.fst).Nodup) (hp : fs.Perm gs)
    (hf : fs.Pairwise fun a b => (text a.1).precedes (text b.1) = true)
    (hg : gs.Pairwise fun a b => (text a.1).precedes (text b.1) = true) : fs = gs := by
  refine List.Perm.eq_of_pairwise ?_ hf hg hp
  intro a b ha hb hab hba
  have hrank : (text a.1).rank = (text b.1).rank :=
    List.le_antisymm (precedes_iff.1 hab) (precedes_iff.1 hba)
  exact List.inj_on_of_nodup_map hd ha (hp.mem_iff.2 hb) (rank_text_injective hrank)

theorem sortFields_eq_iff (hf : (fs.map Prod.fst).Nodup) :
    sortFields fs = sortFields gs ↔ fs.Perm gs := by
  constructor
  · intro h
    exact (sortFields_perm fs).symm.trans (h ▸ sortFields_perm gs)
  · intro h
    have hp := (sortFields_perm fs).trans (h.trans (sortFields_perm gs).symm)
    exact eq_of_perm_of_pairwise (nodup_names_sortFields hf) hp (pairwise_sortFields fs)
      (pairwise_sortFields gs)

/-- Exchanging the values of fields does not change their order. -/
theorem sortFields_map (f : Value → Value) (fields : List (String × Value)) :
    sortFields (fields.map fun e => (e.1, f e.2)) =
      (sortFields fields).map fun e => (e.1, f e.2) := by
  rw [sortFields, sortFields, List.map_mergeSort]
  intro a _ b _
  rfl

theorem sortEntries_ofFields (fields : List (String × Value)) :
    sortEntries (fields.map fun f => (text f.1, f.2)) =
      (sortFields fields).map fun f => (text f.1, f.2) := by
  rw [sortEntries, sortFields, List.map_mergeSort]
  intro a _ b _
  rfl

/-! ## Putting in a field -/

theorem same_text_iff {s t : String} : same (text s) (text t) = true ↔ s = t := by simp [same]

theorem any_same_iff {k : String} :
    (fields.map fun f => (text f.1, f.2)).any (fun e => same e.1 (text k)) = true ↔
      k ∈ fields.map Prod.fst := by
  rw [List.any_map, List.any_eq_true, List.mem_map]
  refine exists_congr fun f => and_congr_right fun _ => ?_
  exact same_text_iff

/-- A new name comes behind all others. -/
theorem insert_of_not_mem {k : String} (hk : k ∉ fields.map Prod.fst) :
    insert (fields.map fun f => (text f.1, f.2)) (text k) v =
      (fields ++ [(k, v)]).map fun f => (text f.1, f.2) := by
  rw [insert, if_neg fun h => hk (any_same_iff.1 h), List.map_append]
  rfl

/-- A name that is there keeps its place and takes the new value. -/
theorem insert_of_mem {k : String} (hk : k ∈ fields.map Prod.fst) :
    insert (fields.map fun f => (text f.1, f.2)) (text k) v =
      (fields.map fun f => if f.1 = k then (f.1, v) else f).map fun f => (text f.1, f.2) := by
  rw [insert, if_pos (any_same_iff.2 hk), List.map_map, List.map_map]
  refine List.map_congr_left fun f _ => ?_
  by_cases hf : f.1 = k
  · simp [same, hf]
  · simp [same, hf]

/-- When a field is put in, distinct names stay distinct, and no other field comes in. -/
theorem exists_insert_fields (hd : (fields.map Prod.fst).Nodup) (k : String) (v : Value) :
    ∃ gs : List (String × Value), insert (fields.map fun f => (text f.1, f.2)) (text k) v =
        gs.map (fun f => (text f.1, f.2)) ∧
      (gs.map Prod.fst).Nodup ∧ ∀ g ∈ gs, g ∈ fields ∨ g = (k, v) := by
  -- A name that is there keeps its place, so the names stay the same.
  by_cases hmem : k ∈ fields.map Prod.fst
  · have hnames : (fields.map fun f => if f.1 = k then (f.1, v) else f).map Prod.fst =
        fields.map Prod.fst := by
      rw [List.map_map]
      refine List.map_congr_left fun f _ => ?_
      by_cases hf : f.1 = k
      · simp [hf]
      · simp [hf]
    refine ⟨_, insert_of_mem hmem, hnames ▸ hd, fun g hg => ?_⟩
    obtain ⟨f, hf, rfl⟩ := List.mem_map.1 hg
    by_cases hk : f.1 = k
    · exact .inr (by rw [if_pos hk, hk])
    · exact .inl (by rwa [if_neg hk])
  · refine ⟨_, insert_of_not_mem hmem, ?_, fun g hg => ?_⟩
    · rw [List.map_append, List.nodup_append]
      refine ⟨hd, List.nodup_singleton k, ?_⟩
      rintro s hs t ht rfl
      have hname : s = k := List.mem_singleton.1 ht
      rw [hname] at hs
      exact hmem hs
    · rw [List.mem_append, List.mem_singleton] at hg
      exact hg

/-! ## Putting in fields one by one -/

/-- What a row of fields comes to in which names may come again: each name once, in the order in
    which the names first came, with the last value given to it. -/
def lastWins (fs : List (String × Value)) : List (String × Value) :=
  (fs.map Prod.fst).eraseDups.map fun name => (name, fieldOrNull name fs.reverse)

theorem mem_names_lastWins {k : String} : k ∈ (lastWins fs).map Prod.fst ↔ k ∈ fs.map Prod.fst := by
  rw [lastWins, List.map_map]
  simp

theorem lastWins_concat_of_not_mem {k : String} (hk : k ∉ fs.map Prod.fst) (v : Value) :
    lastWins (fs ++ [(k, v)]) = lastWins fs ++ [(k, v)] := by
  have hone : [k].removeAll (fs.map Prod.fst) = [k] := by simp [List.removeAll, hk]
  rw [lastWins, List.map_append, List.eraseDups_append, List.map_singleton, hone, List.map_append,
    lastWins]
  congr 1
  · refine List.map_congr_left fun name hname => ?_
    have hne : k ≠ name := by
      rintro rfl
      exact hk (List.mem_eraseDups.1 hname)
    simp [fieldOrNull, field?, hne]
  · simp [fieldOrNull, field?, List.eraseDups_cons]

/-- Distinct names all hold. -/
theorem lastWins_eq_self (hd : (fs.map Prod.fst).Nodup) : lastWins fs = fs := by
  induction fs using List.reverseRecOn with
  | nil => rfl
  | append_singleton fs f ih =>
    rw [List.map_append, List.nodup_append] at hd
    have hk : f.1 ∉ fs.map Prod.fst := fun hmem =>
      hd.2.2 f.1 hmem f.1 (List.mem_singleton.2 rfl) rfl
    rw [lastWins_concat_of_not_mem hk, ih hd.1]

theorem lastWins_concat_of_mem {k : String} (hk : k ∈ fs.map Prod.fst) (v : Value) :
    lastWins (fs ++ [(k, v)]) = (lastWins fs).map fun f => if f.1 = k then (f.1, v) else f := by
  have hnone : [k].removeAll (fs.map Prod.fst) = [] := by simp [List.removeAll, hk]
  rw [lastWins, List.map_append, List.eraseDups_append, List.map_singleton, hnone, lastWins,
    List.map_map, List.eraseDups_nil, List.append_nil]
  refine List.map_congr_left fun name _ => ?_
  by_cases hne : name = k
  · simp [fieldOrNull, field?, hne]
  · simp [fieldOrNull, field?, hne, Ne.symm hne]

theorem length_lastWins_le (fs : List (String × Value)) : (lastWins fs).length ≤ fs.length := by
  induction fs using List.reverseRecOn with
  | nil => exact Nat.le_refl 0
  | append_singleton fs f ih =>
    rw [List.length_append, List.length_singleton]
    by_cases hk : f.1 ∈ fs.map Prod.fst
    · rw [lastWins_concat_of_mem hk, List.length_map]
      omega
    · rw [lastWins_concat_of_not_mem hk, List.length_append, List.length_singleton]
      omega

/-- Only distinct names all hold. -/
theorem nodup_of_length_lastWins (h : (lastWins fs).length = fs.length) :
    (fs.map Prod.fst).Nodup := by
  induction fs using List.reverseRecOn with
  | nil => exact .nil
  | append_singleton fs f ih =>
    rw [List.length_append, List.length_singleton] at h
    by_cases hk : f.1 ∈ fs.map Prod.fst
    · have hle := length_lastWins_le fs
      rw [lastWins_concat_of_mem hk, List.length_map] at h
      omega
    · rw [lastWins_concat_of_not_mem hk, List.length_append, List.length_singleton] at h
      rw [List.map_append, List.nodup_append]
      refine ⟨ih (Nat.add_right_cancel h), List.nodup_singleton _, ?_⟩
      rintro _ hname _ hlast rfl
      exact hk (List.mem_singleton.1 hlast ▸ hname)

/-- Fields that are put in one by one are what the row of them comes to. -/
theorem foldl_insert_eq_lastWins (fs : List (String × Value)) :
    fs.foldl (fun entries f => insert entries (text f.1) f.2) [] =
      (lastWins fs).map fun f => (text f.1, f.2) := by
  induction fs using List.reverseRecOn with
  | nil => rfl
  | append_singleton fs f ih =>
    obtain ⟨k, v⟩ := f
    rw [List.foldl_append, List.foldl_cons, List.foldl_nil, ih]
    by_cases hk : k ∈ fs.map Prod.fst
    · rw [insert_of_mem (mem_names_lastWins.2 hk), lastWins_concat_of_mem hk]
    · rw [insert_of_not_mem (mt mem_names_lastWins.1 hk), lastWins_concat_of_not_mem hk]

end FormEdit.Value
