import FormEdit.Bencode.Encode
import FormEdit.Proofs.Bencode.Codable

set_option autoImplicit false

/-! # What is written

Writing sorts the entries of each dictionary on its way. It comes to the same as putting all entries
in order first and then writing them one behind the other (`encode_eq_written`): what is written
depends on the normal form alone, and not on the order in which entries stand. Only surrogates are
in the way: where a text holds any, nothing is written (`exists_encode_error`). -/

namespace FormEdit.Bencode

open Value (sortFields sortFields_perm pairwise_sortFields)

variable {u : Utf8.StandIns} {v : Value}

/-! ## Writing in order -/

mutual

/-- The bytes of a value with the entries of its dictionaries as they stand. -/
def written : Value → List UInt8
  | .text s => counted (Utf8.encode s.toList)
  | .bytes bs => counted bs
  | .int n => 105 :: (ascii (toString n) ++ [101])
  | .list items => 108 :: (writtenItems items ++ [101])
  | .dict entries => 100 :: (writtenEntries entries ++ [101])
  | _ => []

def writtenItems : List Value → List UInt8
  | [] => []
  | v :: r => written v ++ writtenItems r

def writtenEntries : List (Value × Value) → List UInt8
  | [] => []
  | (k, v) :: r => written k ++ written v ++ writtenEntries r

end

theorem written_list (items : List Value) :
    written (.list items) = 108 :: (items.flatMap written ++ [101]) := by
  have h : ∀ items, writtenItems items = items.flatMap written := by
    intro items
    induction items with
    | nil => rfl
    | cons v r ih => rw [writtenItems, ih, List.flatMap_cons]
  rw [written, h]

/-- The bytes of a field: its name, then its value. -/
def writtenField (f : String × Value) : List UInt8 := written (.text f.1) ++ written f.2

theorem written_ofFields (fields : List (String × Value)) :
    written (.ofFields fields) = 100 :: (fields.flatMap writtenField ++ [101]) := by
  have h : ∀ fields : List (String × Value),
      writtenEntries (fields.map fun f => (.text f.1, f.2)) = fields.flatMap writtenField := by
    intro fields
    induction fields with
    | nil => rfl
    | cons f r ih => rw [List.map_cons, writtenEntries, ih, List.flatMap_cons, writtenField]
  rw [Value.ofFields, written, h]

/-- Bytes are written as they are, whether they are text or not. -/
theorem written_ofBytes (bs : List UInt8) : written (ofBytes bs) = counted bs := by
  rcases Value.ofBytes_cases bs with ⟨s, h, hs⟩ | h
  · rw [h, ← hs]
    rfl
  · rw [h]
    rfl

/-! ## Sorting entries -/

namespace CodedEntry

variable {f : String × Value} {fields l : List (String × Value)}
  {code : String × Value → CodedEntry}

/-- Entries with different names are compared by the bytes of their names. -/
theorem before_eq {a b : CodedEntry} {s t : String} (ha : a.key = orderKey (.text s))
    (hb : b.key = orderKey (.text t)) (hne : s ≠ t) :
    a.before b = some (decide ((Value.text s).rank < (Value.text t).rank)) := by
  have hbytes : Utf8.encode s.toList ≠ Utf8.encode t.toList := fun h =>
    hne (String.toList_inj.1 (Utf8.encode_injective h))
  rw [before, ha, hb, orderKey, orderKey, Value.lessItems?, Value.same,
    if_neg (by simpa using hbytes), Value.less?]
  rfl

/-- Placing an entry keeps a list that is in order from its end in order. -/
theorem exists_place (hcode : ∀ f, (code f).key = orderKey (.text f.1)) (hf : f.1 ∉ l.map Prod.fst)
    (hl : l.Pairwise fun a b => (Value.text b.1).precedes (.text a.1) = true) :
    ∃ l' : List (String × Value), (code f).place (l.map code) = some (l'.map code) ∧
      l'.Perm (f :: l) ∧
      l'.Pairwise fun a b => (Value.text b.1).precedes (.text a.1) = true := by
  induction l with
  | nil => exact ⟨[f], rfl, List.Perm.refl _, List.pairwise_singleton ..⟩
  | cons x r ih =>
    rw [List.map_cons, List.mem_cons, not_or] at hf
    obtain ⟨hx, hr⟩ := List.pairwise_cons.1 hl
    have hbefore := before_eq (hcode f) (hcode x) hf.1
    rw [List.map_cons, place, hbefore]
    by_cases hlt : (Value.text f.1).rank < (Value.text x.1).rank
    · -- The list is in order from its end, so what is smaller goes further on.
      obtain ⟨l', hplace, hperm, hpair⟩ := ih hf.2 hr
      refine ⟨x :: l', ?_, ?_, ?_⟩
      · simp [hlt, hplace]
      · exact (hperm.cons x).trans (List.Perm.swap f x r)
      · refine List.pairwise_cons.2 ⟨fun y hy => ?_, hpair⟩
        rcases List.mem_cons.1 (hperm.mem_iff.1 hy) with rfl | hy
        · exact Value.precedes_of_lt hlt
        · exact hx y hy
    · refine ⟨f :: x :: r, ?_, List.Perm.refl _, ?_⟩
      · simp [hlt]
      · have hle : (Value.text x.1).precedes (.text f.1) = true := Value.precedes_iff.2 hlt
        refine List.pairwise_cons.2 ⟨fun y hy => ?_, hl⟩
        rcases List.mem_cons.1 hy with rfl | hy
        · exact hle
        · exact Value.precedes_trans (hx y hy) hle

theorem exists_sortOnto (hcode : ∀ f, (code f).key = orderKey (.text f.1))
    (hd : ((fields ++ l).map Prod.fst).Nodup)
    (hl : l.Pairwise fun a b => (Value.text b.1).precedes (.text a.1) = true) :
    ∃ l' : List (String × Value), sortOnto (l.map code) (fields.map code) = some (l'.map code) ∧
      l'.Perm (fields ++ l) ∧
      l'.Pairwise fun a b => (Value.text b.1).precedes (.text a.1) = true := by
  induction fields generalizing l with
  | nil => exact ⟨l, rfl, List.Perm.refl _, hl⟩
  | cons f fields ih =>
    rw [List.cons_append, List.map_cons, List.nodup_cons] at hd
    have hf : f.1 ∉ l.map Prod.fst := fun h => hd.1 (by
      rw [List.map_append]
      exact List.mem_append_right _ h)
    obtain ⟨l', hplace, hperm, hpair⟩ := exists_place hcode hf hl
    have hmove : (fields ++ l').Perm (f :: (fields ++ l)) :=
      (hperm.append_left fields).trans List.perm_middle
    have hd' : ((fields ++ l').map Prod.fst).Nodup := by
      rw [(hmove.map Prod.fst).nodup_iff, List.map_cons]
      exact List.nodup_cons.2 hd
    obtain ⟨l'', hsort, hperm', hpair'⟩ := ih hd' hpair
    refine ⟨l'', ?_, hperm'.trans hmove, hpair'⟩
    rw [List.map_cons, sortOnto, hplace]
    exact hsort

/-- Entries with distinct names are sorted as their fields are. -/
theorem sort_map (hcode : ∀ f, (code f).key = orderKey (.text f.1))
    (hd : (fields.map Prod.fst).Nodup) :
    sort (fields.map code) = some ((sortFields fields).map code) := by
  have hd' : ((fields ++ []).map Prod.fst).Nodup := by rwa [List.append_nil]
  obtain ⟨l, hsort, hperm, hpair⟩ := exists_sortOnto hcode hd' List.Pairwise.nil
  rw [List.append_nil] at hperm
  have hrev : l.reverse.Perm (sortFields fields) :=
    (List.reverse_perm l).trans (hperm.trans (sortFields_perm fields).symm)
  have hl : l.reverse = sortFields fields := by
    refine Value.eq_of_perm_of_pairwise ?_ hrev (List.pairwise_reverse.2 hpair)
      (pairwise_sortFields fields)
    exact ((hrev.trans (sortFields_perm fields)).map Prod.fst).nodup_iff.2 hd
  rw [sort, ← List.map_nil, hsort, ← hl, List.map_reverse]
  rfl

theorem codes_map {bytes : String × Value → List UInt8}
    (h : ∀ f ∈ fields, (code f).code = .ok (bytes f)) :
    codes (fields.map code) = .ok (fields.flatMap bytes) := by
  induction fields with
  | nil => rfl
  | cons f fields ih =>
    have ih := ih fun g hg => h g (List.mem_cons_of_mem f hg)
    simp only [List.map_cons, codes, h f List.mem_cons_self, ih, List.flatMap_cons]

end CodedEntry

/-! ## Encoding -/

theorem encode_text {s : String} (h : Utf8.Writable u s.toList) :
    encode u (.text s) = .ok (written (.text s)) := by
  rw [encode, Utf8.write_of_writable h]
  rfl

theorem eq_counted_of_encode_text {s : String} {bs : List UInt8}
    (h : encode u (.text s) = .ok bs) : bs = counted (Utf8.encode s.toList) := by
  rw [encode] at h
  split at h
  · cases h
  · next cs hcs =>
    cases h
    rw [(Utf8.write_eq_ok_iff.1 hcs).2]

theorem encodeItems_eq {items : List Value} {bytes : Value → List UInt8}
    (h : ∀ v ∈ items, encode u v = .ok (bytes v)) :
    encodeItems u items = .ok (items.flatMap bytes) := by
  induction items with
  | nil => rfl
  | cons v r ih =>
    have ih := ih fun w hw => h w (List.mem_cons_of_mem v hw)
    simp only [encodeItems, h v List.mem_cons_self, ih, List.flatMap_cons]

namespace CodedEntry

/-- An entry with its writing. -/
def ofEntry (u : Utf8.StandIns) (e : Value × Value) : CodedEntry :=
  ⟨orderKey e.1, e.2,
    match encode u e.1 with
    | .error x => .error x
    | .ok bs =>
      match encode u e.2 with
      | .error x => .error x
      | .ok cs => .ok (bs ++ cs)⟩

theorem codedEntries_eq_map (entries : List (Value × Value)) :
    codedEntries u entries = entries.map (ofEntry u) := by
  induction entries with
  | nil => rfl
  | cons e entries ih =>
    rw [codedEntries, ih, List.map_cons]
    rfl

/-- A field with its writing. -/
def ofField (u : Utf8.StandIns) (f : String × Value) : CodedEntry := ofEntry u (.text f.1, f.2)

theorem code_ofField {f : String × Value} {bs : List UInt8} (hname : Utf8.Writable u f.1.toList)
    (h : encode u f.2 = .ok bs) : (ofField u f).code = .ok (written (.text f.1) ++ bs) := by
  simp only [ofField, ofEntry, encode_text hname, h]

end CodedEntry

theorem unwritableKey?_eq_none_iff {fields : List (String × Value)} :
    unwritableKey? u (fields.map fun f => (.text f.1, f.2)) = none ↔
      ∀ f ∈ fields, Utf8.Writable u f.1.toList := by
  induction fields with
  | nil => simp [unwritableKey?]
  | cons f fields ih =>
    rw [List.map_cons, unwritableKey?, List.forall_mem_cons, ← ih,
      ← Utf8.unwritableFrom?_eq_none_iff 0]
    cases Utf8.unwritableFrom? u 0 f.1.toList <;> simp

/-- Once all names can be written, fields are written in order of them. -/
theorem encode_ofFields_eq {fields : List (String × Value)} (hd : (fields.map Prod.fst).Nodup)
    (hnames : ∀ f ∈ fields, Utf8.Writable u f.1.toList) :
    encode u (.ofFields fields) =
      match CodedEntry.codes ((sortFields fields).map (CodedEntry.ofField u)) with
      | .error x => .error x
      | .ok cs => .ok (100 :: (cs ++ [101])) := by
  have hentries : codedEntries u (fields.map fun f => (.text f.1, f.2)) =
      fields.map (CodedEntry.ofField u) := by
    rw [CodedEntry.codedEntries_eq_map, List.map_map]
    rfl
  have hsort : CodedEntry.sort (fields.map (CodedEntry.ofField u)) =
      some ((sortFields fields).map (CodedEntry.ofField u)) := CodedEntry.sort_map (fun f => rfl) hd
  rw [Value.ofFields, encode, unwritableKey?_eq_none_iff.2 hnames, hentries]
  cases hcodes : CodedEntry.codes ((sortFields fields).map (CodedEntry.ofField u)) with
  | error x => simp only [hsort, hcodes]
  | ok cs => simp only [hsort, hcodes]

/-- Fields whose values are written are written in order of their names. -/
theorem encode_ofFields {fields : List (String × Value)} (bytes : Value → List UInt8)
    (hd : (fields.map Prod.fst).Nodup) (hnames : ∀ f ∈ fields, Utf8.Writable u f.1.toList)
    (h : ∀ f ∈ fields, encode u f.2 = .ok (bytes f.2)) :
    encode u (.ofFields fields) = .ok (100 :: ((sortFields fields).flatMap
      (fun f => written (.text f.1) ++ bytes f.2) ++ [101])) := by
  have hperm := sortFields_perm fields
  have hcodes : CodedEntry.codes ((sortFields fields).map (CodedEntry.ofField u)) =
      .ok ((sortFields fields).flatMap fun f => written (.text f.1) ++ bytes f.2) :=
    CodedEntry.codes_map fun f hf =>
      CodedEntry.code_ofField (hnames f (hperm.mem_iff.1 hf)) (h f (hperm.mem_iff.1 hf))
  rw [encode_ofFields_eq hd hnames, hcodes]

/-- What is written is the normal form with its entries in order. -/
theorem encode_eq_written (h : v.Codable) (hu : v.Writable u) :
    encode u v = .ok (written v.normal.sorted) := by
  induction h with
  | text s => exact encode_text (Value.writable_text_iff.1 hu)
  | bytes bs => rw [encode, Value.normal, Value.sorted_ofBytes, written_ofBytes]
  | int n digits =>
    rw [encode, if_pos digits]
    rfl
  | list items _ ih =>
    have hitems := fun v hv => ih v hv (Value.writable_list_iff.1 hu v hv)
    rw [Value.sorted_normal_list, written_list, List.flatMap_map, encode, encodeItems_eq hitems]
  | tuple items _ ih =>
    have hitems := fun v hv => ih v hv (Value.writable_tuple_iff.1 hu v hv)
    rw [Value.sorted_normal_tuple, written_list, List.flatMap_map, encode, encodeItems_eq hitems]
  | dict fields distinct _ ih =>
    rw [Value.writable_ofFields_iff] at hu
    rw [Value.sorted_normal_ofFields, written_ofFields, List.flatMap_map,
      encode_ofFields (fun v => written v.normal.sorted) distinct (fun f hf => (hu f hf).1)
        fun f hf => ih f hf (hu f hf).2]
    rfl

/-! ## Surrogates -/

/-- Items of which one holds surrogates are not written. -/
theorem exists_encodeItems_error {items : List Value} (h : ∀ v ∈ items, v.Codable)
    (hbad : ∀ v ∈ items, ¬ v.Writable u → ∃ x, encode u v = .error (.unwritable x))
    (hu : ¬ ∀ v ∈ items, v.Writable u) : ∃ x, encodeItems u items = .error (.unwritable x) := by
  induction items with
  | nil => exact absurd (List.forall_mem_nil _) hu
  | cons v items ih =>
    obtain ⟨hv, hitems⟩ := List.forall_mem_cons.1 h
    obtain ⟨hvbad, hitemsbad⟩ := List.forall_mem_cons.1 hbad
    rw [encodeItems]
    by_cases hw : v.Writable u
    · obtain ⟨x, hx⟩ := ih hitems hitemsbad fun hall => hu (List.forall_mem_cons.2 ⟨hw, hall⟩)
      exact ⟨x, by rw [encode_eq_written hv hw, hx]⟩
    · obtain ⟨x, hx⟩ := hvbad hw
      exact ⟨x, by rw [hx]⟩

/-- Fields of which one has a value that holds surrogates are not written. -/
theorem exists_codes_error {fields : List (String × Value)} (h : ∀ f ∈ fields, f.2.Codable)
    (hnames : ∀ f ∈ fields, Utf8.Writable u f.1.toList)
    (hbad : ∀ f ∈ fields, ¬ f.2.Writable u → ∃ x, encode u f.2 = .error (.unwritable x))
    (hu : ¬ ∀ f ∈ fields, f.2.Writable u) :
    ∃ x, CodedEntry.codes (fields.map (CodedEntry.ofField u)) = .error (.unwritable x) := by
  induction fields with
  | nil => exact absurd (List.forall_mem_nil _) hu
  | cons f fields ih =>
    obtain ⟨hf, hfields⟩ := List.forall_mem_cons.1 h
    obtain ⟨hname, hnames⟩ := List.forall_mem_cons.1 hnames
    obtain ⟨hfbad, hfieldsbad⟩ := List.forall_mem_cons.1 hbad
    rw [List.map_cons, CodedEntry.codes]
    by_cases hw : f.2.Writable u
    · obtain ⟨x, hx⟩ := ih hfields hnames hfieldsbad fun hall =>
        hu (List.forall_mem_cons.2 ⟨hw, hall⟩)
      exact ⟨x, by rw [CodedEntry.code_ofField hname (encode_eq_written hf hw), hx]⟩
    · obtain ⟨x, hx⟩ := hfbad hw
      have hcode : (CodedEntry.ofField u f).code = .error (.unwritable x) := by
        simp only [CodedEntry.ofField, CodedEntry.ofEntry, encode_text hname, hx]
      exact ⟨x, by rw [hcode]⟩

/-- A value in which a text holds surrogates is not written. -/
theorem exists_encode_error (h : v.Codable) (hu : ¬ v.Writable u) :
    ∃ x, encode u v = .error (.unwritable x) := by
  induction h with
  | text s =>
    obtain ⟨x, hx⟩ := Utf8.exists_write_error (mt Value.writable_text_iff.2 hu)
    exact ⟨x, by rw [encode, hx]⟩
  | bytes bs => exact absurd (Value.writable_bytes bs) hu
  | int n _ => exact absurd (Value.writable_int n) hu
  | list items each ih =>
    obtain ⟨x, hx⟩ := exists_encodeItems_error each ih (mt Value.writable_list_iff.2 hu)
    exact ⟨x, by rw [encode, hx]⟩
  | tuple items each ih =>
    obtain ⟨x, hx⟩ := exists_encodeItems_error each ih (mt Value.writable_tuple_iff.2 hu)
    exact ⟨x, by rw [encode, hx]⟩
  | dict fields distinct each ih =>
    have hperm := sortFields_perm fields
    by_cases hnames : ∀ f ∈ fields, Utf8.Writable u f.1.toList
    · have hvalues : ¬ ∀ f ∈ sortFields fields, f.2.Writable u := fun hall =>
        hu (Value.writable_ofFields_iff.2 fun f hf =>
          ⟨hnames f hf, hall f (hperm.mem_iff.2 hf)⟩)
      obtain ⟨x, hx⟩ := exists_codes_error (fun f hf => each f (hperm.mem_iff.1 hf))
        (fun f hf => hnames f (hperm.mem_iff.1 hf)) (fun f hf => ih f (hperm.mem_iff.1 hf)) hvalues
      exact ⟨x, by rw [encode_ofFields_eq distinct hnames, hx]⟩
    · obtain ⟨x, hx⟩ := Option.ne_none_iff_exists'.1 (mt unwritableKey?_eq_none_iff.1 hnames)
      exact ⟨x, by rw [Value.ofFields, encode, hx]⟩

end FormEdit.Bencode
