import FormEdit.Proofs.Bencode.Written

set_option autoImplicit false

/-! # Rows of what is written

A list is written as its items and a dictionary as its entries, in an order of the writer's own, and
each entry as its key and its value (`exists_rows_of_encode_dict`). Nothing is asked of the keys. -/

namespace FormEdit

namespace Bencode

variable {u : Utf8.StandIns} {bs cs : List UInt8}

/-- An entry of a dictionary and the bytes of its key and value. -/
structure Row where
  entry : Value × Value
  keyCode : List UInt8
  valueCode : List UInt8

namespace Row

def code (r : Row) : List UInt8 := r.keyCode ++ r.valueCode

/-- Whether the bytes are those of the entry. -/
structure Written (u : Utf8.StandIns) (r : Row) : Prop where
  key : encode u r.entry.1 = .ok r.keyCode
  value : encode u r.entry.2 = .ok r.valueCode

end Row

theorem exists_rows_of_encodeItems {items : List Value} (h : encodeItems u items = .ok cs) :
    ∃ rows : List (Value × List UInt8), rows.map Prod.fst = items ∧ cs = rows.flatMap Prod.snd ∧
      ∀ r ∈ rows, encode u r.1 = .ok r.2 := by
  induction items generalizing cs with
  | nil =>
    cases h
    exact ⟨[], rfl, rfl, by simp⟩
  | cons v items ih =>
    rw [encodeItems] at h
    split at h
    · cases h
    · next bs hv =>
      split at h
      · cases h
      · next cs' hitems =>
        cases h
        obtain ⟨rows, rfl, rfl, hrows⟩ := ih hitems
        exact ⟨(v, bs) :: rows, rfl, rfl, List.forall_mem_cons.2 ⟨hv, hrows⟩⟩

namespace CodedEntry

variable {e : Value × Value} {entries sorted : List (Value × Value)} {es : List CodedEntry}

theorem exists_place_eq (h : (ofEntry u e).place (sorted.map (ofEntry u)) = some es) :
    ∃ sorted' : List (Value × Value), es = sorted'.map (ofEntry u) ∧
      sorted'.Perm (e :: sorted) := by
  induction sorted generalizing es with
  | nil =>
    cases h
    exact ⟨[e], rfl, .refl _⟩
  | cons l sorted ih =>
    rw [List.map_cons, place] at h
    split at h
    · cases h
    · obtain ⟨es', hplace, rfl⟩ := Option.map_eq_some_iff.1 h
      obtain ⟨sorted', rfl, hperm⟩ := ih hplace
      exact ⟨l :: sorted', rfl, (hperm.cons l).trans (.swap e l sorted)⟩
    · cases h
      exact ⟨e :: l :: sorted, rfl, .refl _⟩

theorem exists_sortOnto_eq
    (h : sortOnto (sorted.map (ofEntry u)) (entries.map (ofEntry u)) = some es) :
    ∃ sorted' : List (Value × Value), es = sorted'.map (ofEntry u) ∧
      sorted'.Perm (entries ++ sorted) := by
  induction entries generalizing sorted with
  | nil =>
    cases h
    exact ⟨sorted, rfl, .refl _⟩
  | cons e entries ih =>
    rw [List.map_cons, sortOnto] at h
    split at h
    · cases h
    · next es' hplace =>
      obtain ⟨sorted', rfl, hperm⟩ := exists_place_eq hplace
      obtain ⟨sorted'', rfl, hperm'⟩ := ih h
      exact ⟨sorted'', rfl, hperm'.trans ((hperm.append_left entries).trans List.perm_middle)⟩

/-- Sorting entries loses none of them. -/
theorem exists_sort_eq (h : sort (entries.map (ofEntry u)) = some es) :
    ∃ sorted' : List (Value × Value), es = sorted'.map (ofEntry u) ∧ sorted'.Perm entries := by
  obtain ⟨es', hsort, rfl⟩ := Option.map_eq_some_iff.1 h
  rw [← List.map_nil (f := ofEntry u)] at hsort
  obtain ⟨sorted', rfl, hperm⟩ := exists_sortOnto_eq hsort
  rw [List.append_nil] at hperm
  exact ⟨sorted'.reverse, by rw [List.map_reverse], (List.reverse_perm _).trans hperm⟩

theorem exists_rows_of_codes (h : codes (entries.map (ofEntry u)) = .ok cs) :
    ∃ rows : List Row, rows.map Row.entry = entries ∧ cs = rows.flatMap Row.code ∧
      ∀ r ∈ rows, r.Written u := by
  induction entries generalizing cs with
  | nil =>
    cases h
    exact ⟨[], rfl, rfl, by simp⟩
  | cons e entries ih =>
    rw [List.map_cons, codes] at h
    split at h
    · cases h
    · next bs he =>
      split at h
      · cases h
      · next cs' hcodes =>
        cases h
        obtain ⟨rows, rfl, rfl, hrows⟩ := ih hcodes
        rw [ofEntry] at he
        dsimp only at he
        split at he
        · cases he
        · next keyCode hkey =>
          split at he
          · cases he
          · next valueCode hvalue =>
            cases he
            exact ⟨⟨e, keyCode, valueCode⟩ :: rows, rfl, rfl,
              List.forall_mem_cons.2 ⟨⟨hkey, hvalue⟩, hrows⟩⟩

end CodedEntry

/-- A dictionary is written as all of its entries, in some order. -/
theorem exists_rows_of_encode_dict {entries : List (Value × Value)}
    (h : encode u (.dict entries) = .ok bs) :
    ∃ rows : List Row, (rows.map Row.entry).Perm entries ∧
      bs = 100 :: (rows.flatMap Row.code ++ [101]) ∧ ∀ r ∈ rows, r.Written u := by
  rw [encode, CodedEntry.codedEntries_eq_map] at h
  split at h
  · cases h
  · split at h
    · cases h
    · next es hsort =>
      split at h
      · cases h
      next cs hcodes =>
      cases h
      obtain ⟨sorted', rfl, hperm⟩ := CodedEntry.exists_sort_eq hsort
      obtain ⟨rows, rfl, rfl, hrows⟩ := CodedEntry.exists_rows_of_codes hcodes
      exact ⟨rows, hperm, rfl, hrows⟩

end Bencode

end FormEdit
