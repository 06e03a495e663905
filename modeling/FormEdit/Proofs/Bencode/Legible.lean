import FormEdit.Proofs.Bencode.Grammar
import FormEdit.Proofs.Bencode.Keys
import FormEdit.Proofs.Bencode.Rows

set_option autoImplicit false

/-! # What is written and cannot be read

Any value may be written as a key, but only text and bytes are read as one, and keys that are read
as one name are one entry. So what is written reads back exactly if the keys of its dictionaries, at
any depth, are text or bytes, and every entry is there again exactly if their names are distinct
besides (`decode_of_encode_iff`).

That bytes are refused is said as that they read as a value is: wherever they stand, and whatever
stands behind them (`Refused`). What is written is one or the other, by induction over the value
(`fate_of_encode`). -/

namespace FormEdit

namespace Bencode

open Value (Keeps Within)

variable {u : Utf8.StandIns} {v w : Value} {bs cs : List UInt8} {frames : List Frame}

/-! ## Bytes that are refused -/

/-- Bytes that are refused, wherever they stand. -/
def Refused (bs : List UInt8) : Prop :=
  ∀ place frames rest, ∃ fault, readFrom place frames (bs ++ rest) = .malformed fault

theorem Refused.decode_ne (h : Refused bs) : decode bs ≠ .ok w := by
  obtain ⟨fault, hread⟩ := h 0 [] []
  rw [List.append_nil, ← read] at hread
  rw [decode, hread]
  rintro ⟨⟩

/-- A length of too many digits is refused. -/
theorem refused_counted (h : ¬ Numeral.printable bs.length = true) : Refused (counted bs) := by
  intro place frames rest
  obtain ⟨b, s, hs, hdigit, clear⟩ := exists_length_cons bs.length
  have hbytes : counted bs ++ rest = b :: (s ++ 58 :: (bs ++ rest)) := by
    rw [counted, hs, List.append_assoc, List.cons_append, List.cons_append]
  have hpiece :
      piece place b (s ++ 58 :: (bs ++ rest)) = .error (.malformed (.badLength place)) := by
    rw [piece, if_neg (ne_of_isDigit hdigit (by decide)), if_pos hdigit,
      splitAtMark_length hdigit clear, ← hs]
    cases hn : Numeral.ofBytes (ascii (toString bs.length)) with
    | error fault => simp only [hn]
    | ok m =>
      rw [Numeral.printable_iff, Int.natAbs_natCast] at h
      exact absurd (Numeral.lt_of_ofBytes_toString hn) h
  rw [hbytes, readFrom, hpiece]
  exact ⟨_, rfl⟩

/-- Items of which one is refused are refused in a list. -/
theorem readFrom_items_of_refused {α : Type} {items : List α} {code : α → List UInt8}
    (h : ∀ i ∈ items, (∃ w, ReadsAs (code i) w) ∨ Refused (code i))
    (hbad : ∃ i ∈ items, Refused (code i)) (place : Nat) (acc : List Value) (rest : List UInt8) :
    ∃ fault, readFrom place (.list acc :: frames) (items.flatMap code ++ rest) =
      .malformed fault := by
  induction items generalizing place acc with
  | nil => simp at hbad
  | cons i items ih =>
    obtain ⟨hi, hitems⟩ := List.forall_mem_cons.1 h
    rw [List.flatMap_cons, List.append_assoc]
    rcases hi with ⟨w, hw⟩ | hi
    · by_cases hrefused : Refused (code i)
      · exact hrefused place _ _
      · have hbad : ∃ i ∈ items, Refused (code i) := by
          simpa [hrefused] using hbad
        rw [hw, deliver, resume]
        exact ih hitems hbad _ _
    · exact hi place _ _

theorem refused_list {α : Type} {items : List α} {code : α → List UInt8}
    (h : ∀ i ∈ items, (∃ w, ReadsAs (code i) w) ∨ Refused (code i))
    (hbad : ∃ i ∈ items, Refused (code i)) :
    Refused (108 :: (items.flatMap code ++ [101])) := by
  intro place frames rest
  have hopen : piece place 108 (items.flatMap code ++ [101] ++ rest) = .ok (.list, 0) := rfl
  rw [List.cons_append, readFrom_of_piece hopen, take, resume, List.drop_zero, List.append_assoc]
  exact readFrom_items_of_refused h hbad _ _ _

namespace Row

variable {r : Row}

/-- Whether an entry is refused in a dictionary. -/
def Refused (r : Row) : Prop :=
  ∀ place entries frames rest, ∃ fault,
    readFrom place (.dict entries none :: frames) (r.code ++ rest) = .malformed fault

/-- Whether an entry is read as a field. -/
structure Reads (r : Row) (f : FieldCode) : Prop where
  code : f.code = r.code
  bytes : r.entry.1.stringBytes? = some f.name
  legible : r.entry.1.Legible ∧ r.entry.2.Legible
  counts : IsString f.nameCode f.name
  derives : Derives f.valueCode f.value
  keeps : Keeps r.entry.2 f.value ↔ r.entry.2.DistinctNames

end Row

theorem readFrom_rows_of_refused {rows : List Row}
    (h : ∀ r ∈ rows, (∃ f, r.Reads f) ∨ r.Refused) (hbad : ∃ r ∈ rows, r.Refused) (place : Nat)
    (entries : List (Value × Value)) (rest : List UInt8) :
    ∃ fault, readFrom place (.dict entries none :: frames) (rows.flatMap Row.code ++ rest) =
      .malformed fault := by
  induction rows generalizing place entries with
  | nil => simp at hbad
  | cons r rows ih =>
    obtain ⟨hr, hrows⟩ := List.forall_mem_cons.1 h
    rw [List.flatMap_cons, List.append_assoc]
    rcases hr with ⟨f, hf⟩ | hr
    · by_cases hrefused : r.Refused
      · exact hrefused place _ _ _
      · have hbad : ∃ r ∈ rows, r.Refused := by
          simpa [hrefused] using hbad
        have hstep := @readFrom_fields frames [f] entries (by simpa using hf.counts)
          (by simpa using hf.derives.readsAs) place
        rw [List.flatMap_singleton, hf.code] at hstep
        rw [hstep]
        exact ih hrows hbad _ _
    · exact hr place _ _ _

theorem refused_dict {rows : List Row} (h : ∀ r ∈ rows, (∃ f, r.Reads f) ∨ r.Refused)
    (hbad : ∃ r ∈ rows, r.Refused) : Refused (100 :: (rows.flatMap Row.code ++ [101])) := by
  intro place frames rest
  have hopen : piece place 100 (rows.flatMap Row.code ++ [101] ++ rest) = .ok (.dict, 0) := rfl
  rw [List.cons_append, readFrom_of_piece hopen, take, resume, List.drop_zero, List.append_assoc]
  exact readFrom_rows_of_refused h hbad _ _ _

/-! ## What becomes of what is written -/

/-- What is written is read or refused. It is read if it is legible, and then all entries are there
    again if their names are distinct. -/
inductive Fate (v : Value) (bs : List UInt8) : Prop
  | read {w : Value} (legible : v.Legible) (derives : Derives bs w)
    (keeps : Keeps v w ↔ v.DistinctNames)
  | refused (illegible : ¬ v.Legible) (refused : Refused bs)

theorem fate_of_string {s : List UInt8} (hs : v.stringBytes? = some s)
    (hlegible : v.Legible ↔ Numeral.printable s.length = true) (hdistinct : v.DistinctNames) :
    Fate v (counted s) := by
  by_cases hlen : Numeral.printable s.length = true
  · exact .read (hlegible.2 hlen) (.string (isString_counted hlen))
      (iff_of_true (.string hs rfl) hdistinct)
  · exact .refused (mt hlegible.1 hlen) (refused_counted hlen)

theorem fate_of_encodeItems {items : List Value} (hlegible : v.Legible ↔ ∀ i ∈ items, i.Legible)
    (hdistinct : v.DistinctNames ↔ ∀ i ∈ items, i.DistinctNames)
    (hkeeps : ∀ {ws}, Keeps v (.list ws) ↔ List.Forall₂ Keeps items ws)
    (ih : ∀ i ∈ items, ∀ bs, encode u i = .ok bs → Fate i bs) (h : encodeItems u items = .ok cs) :
    Fate v (108 :: (cs ++ [101])) := by
  obtain ⟨rows, rfl, rfl, hrows⟩ := exists_rows_of_encodeItems h
  have hfate : ∀ r ∈ rows, Fate r.1 r.2 := fun r hr =>
    ih r.1 (List.mem_map_of_mem hr) r.2 (hrows r hr)
  rw [List.forall_mem_map] at hlegible hdistinct
  by_cases hall : ∀ r ∈ rows, r.1.Legible
  · have hread : ∀ r ∈ rows, ∃ w, Derives r.2 w ∧ (Keeps r.1 w ↔ r.1.DistinctNames) := by
      intro r hr
      cases hfate r hr with
      | read _ derives keeps => exact ⟨_, derives, keeps⟩
      | refused illegible _ => exact absurd (hall r hr) illegible
    choose! w hderives hkept using hread
    have hlist := Derives.list (rows.map fun r => (r.2, w r)) (List.forall_mem_map.2 hderives)
    rw [List.flatMap_map, List.map_map] at hlist
    refine .read (hlegible.2 hall) hlist ?_
    rw [hkeeps, hdistinct, List.forall₂_map_left_iff, List.forall₂_map_right_iff,
      List.forall₂_same]
    exact forall₂_congr hkept
  · refine .refused (mt hlegible.1 hall) (refused_list ?_ ?_)
    · intro r hr
      cases hfate r hr with
      | read _ derives _ => exact .inl ⟨_, derives.readsAs⟩
      | refused _ refused => exact .inr refused
    · simp only [not_forall] at hall
      obtain ⟨r, hr, hillegible⟩ := hall
      cases hfate r hr with
      | read legible _ _ => exact absurd legible hillegible
      | refused _ refused => exact ⟨r, hr, refused⟩

/-! ## Dictionaries -/

/-- A value that is no string is not written as one. -/
theorem not_isString_of_encode (h : encode u v = .ok bs) (hv : v.stringBytes? = none)
    (s : List UInt8) : ¬ IsString bs s := by
  obtain ⟨b, r, rfl, hb⟩ : ∃ b r, bs = b :: r ∧ isDigit b = false := by
    cases v with
    | text s => cases hv
    | bytes bs => cases hv
    | int n =>
      rw [encode] at h
      split at h
      · cases h
        exact ⟨_, _, rfl, rfl⟩
      · cases h
    | list items =>
      rw [encode] at h
      split at h
      · cases h
      · cases h
        exact ⟨_, _, rfl, rfl⟩
    | tuple items =>
      rw [encode] at h
      split at h
      · cases h
      · cases h
        exact ⟨_, _, rfl, rfl⟩
    | dict entries =>
      obtain ⟨rows, -, rfl, -⟩ := exists_rows_of_encode_dict h
      exact ⟨_, _, rfl, rfl⟩
    | _ => cases h
  rintro ⟨d, t, heq, hdigit, -⟩
  obtain ⟨rfl, -⟩ := List.cons.inj heq
  rw [hb] at hdigit
  cases hdigit

/-- A string is written behind its length. -/
theorem isString_of_encode {s : List UInt8} (h : encode u v = .ok bs) (hs : v.stringBytes? = some s)
    (hv : v.Legible) : IsString bs s := by
  have hlen : Numeral.printable s.length = true := (hv v .self).1 s hs
  cases v with
  | text t =>
    cases hs
    rw [eq_counted_of_encode_text h]
    exact isString_counted hlen
  | bytes t =>
    cases hs
    cases h
    exact isString_counted hlen
  | _ => cases hs

/-- Only strings are delivered as names. -/
theorem deliver_name_of_not_isString (hw : Derives bs w) (hs : ∀ s, ¬ IsString bs s)
    (entries : List (Value × Value)) (frames : List Frame) :
    ∃ fault, deliver w (.dict entries none :: frames) = .error fault := by
  rcases hw.cases_string with ⟨s, counts, -⟩ | ⟨m, rfl⟩ | ⟨items, rfl⟩ | ⟨entries, rfl⟩
  · exact absurd counts (hs s)
  all_goals exact ⟨_, rfl⟩

theorem Row.Written.reads_or_refused {r : Row} (h : r.Written u) (hkey : Fate r.entry.1 r.keyCode)
    (hvalue : Fate r.entry.2 r.valueCode) :
    (∃ f, r.Reads f) ∨ (¬ (r.entry.1.stringBytes?.isSome = true ∧ r.entry.1.Legible ∧
      r.entry.2.Legible) ∧ r.Refused) := by
  cases hkey with
  | refused illegible refused =>
    refine .inr ⟨fun hall => illegible hall.2.1, fun place entries frames rest => ?_⟩
    rw [code, List.append_assoc]
    exact refused place _ _
  | @read w legible derives _ =>
    cases hname : r.entry.1.stringBytes? with
    | none =>
      refine .inr ⟨by simp, fun place entries frames rest => ?_⟩
      obtain ⟨fault, hdeliver⟩ := deliver_name_of_not_isString derives
        (not_isString_of_encode h.key hname) entries frames
      rw [code, List.append_assoc, derives.readsAs, hdeliver]
      exact ⟨fault, rfl⟩
    | some name =>
      have counts := isString_of_encode h.key hname legible
      cases hvalue with
      | refused illegible refused =>
        refine .inr ⟨fun hall => illegible hall.2.2, fun place entries frames rest => ?_⟩
        rw [code, List.append_assoc, counts.readsAs, deliver_ofBytes, resume]
        exact refused _ _ rest
      | @read w legible' derives' keeps =>
        exact .inl ⟨⟨r.keyCode, name, r.valueCode, w⟩, rfl, hname, ⟨legible, legible'⟩, counts,
          derives', keeps⟩

section Fields

variable {rows : List Row} {f : Row → FieldCode} {entries : List (Value × Value)}

theorem forall_entries_iff (hperm : (rows.map Row.entry).Perm entries)
    {P : Value × Value → Prop} : (∀ e ∈ entries, P e) ↔ ∀ r ∈ rows, P r.entry := by
  refine ⟨fun h r hr => h _ (hperm.mem_iff.1 (List.mem_map_of_mem hr)), fun h e he => ?_⟩
  obtain ⟨r, hr, rfl⟩ := List.mem_map.1 (hperm.mem_iff.2 he)
  exact h r hr

theorem legible_dict_iff (hperm : (rows.map Row.entry).Perm entries) :
    (Value.dict entries).Legible ↔ ∀ r ∈ rows, r.entry.1.stringBytes?.isSome = true ∧
      r.entry.1.Legible ∧ r.entry.2.Legible := by
  rw [Value.Legible, Value.forall_within_dict, forall_entries_iff hperm]
  simp only [Value.stringBytes?, Value.entries, forall_entries_iff hperm]
  constructor
  · exact fun h r hr => ⟨h.1.2 r hr, h.2 r hr⟩
  · exact fun h => ⟨⟨by simp, fun r hr => (h r hr).1⟩, fun r hr => (h r hr).2⟩

theorem nodup_names_iff (hperm : (rows.map Row.entry).Perm entries)
    (hname : ∀ r ∈ rows, r.entry.1.name? = some (f r).field.1) :
    (entries.map fun e => e.1.name?).Nodup ↔
      ((rows.map fun r => (f r).field).map Prod.fst).Nodup := by
  have hnames : (rows.map Row.entry).map (fun e => e.1.name?) =
      ((rows.map fun r => (f r).field).map Prod.fst).map some := by
    rw [List.map_map, List.map_map, List.map_map]
    exact List.map_congr_left hname
  rw [← (hperm.map _).nodup_iff, hnames, List.nodup_map_iff (Option.some_injective _)]

/-- What is kept of a dictionary: there is a field for each entry exactly if the names are distinct,
    and then it has what is kept of the value of the entry. -/
theorem keeps_dict_iff (hperm : (rows.map Row.entry).Perm entries)
    (hname : ∀ r ∈ rows, r.entry.1.name? = some (f r).field.1) :
    Keeps (.dict entries) (.ofFields (Value.lastWins (rows.map fun r => (f r).field))) ↔
      (entries.map fun e => e.1.name?).Nodup ∧ ∀ r ∈ rows, Keeps r.entry.2 (f r).value := by
  rw [nodup_names_iff hperm hname]
  constructor
  · intro h
    obtain ⟨fields, value, heq, size, each, present⟩ := h.exists_fields
    rw [Value.ofFields_inj] at heq
    have hnodup : ((rows.map fun r => (f r).field).map Prod.fst).Nodup := by
      refine Value.nodup_of_length_lastWins ?_
      rw [heq, size, ← hperm.length_eq, List.length_map, List.length_map]
    refine ⟨hnodup, fun r hr => ?_⟩
    rw [Value.lastWins_eq_self hnodup] at heq
    obtain ⟨name, hsome, hmem⟩ := (forall_entries_iff hperm).1 present r hr
    rw [← heq] at hmem
    obtain ⟨r', hr', hfield⟩ := List.mem_map.1 hmem
    -- Names are distinct, so the field with the name of the entry is its own.
    have hsame : (f r').field = (f r).field := by
      refine List.inj_on_of_nodup_map hnodup (List.mem_map_of_mem hr') (List.mem_map_of_mem hr) ?_
      rw [hfield]
      exact Option.some.inj (hsome.symm.trans (hname r hr))
    have hvalue : value r.entry = (f r).value := by
      rw [hsame] at hfield
      exact (congrArg Prod.snd hfield).symm
    rw [← hvalue]
    exact (forall_entries_iff hperm).1 each r hr
  · rintro ⟨hnodup, hkeeps⟩
    rw [Value.lastWins_eq_self hnodup]
    have hentries : ∀ e ∈ entries, ∃ w, Keeps e.2 w ∧
        ∃ name, e.1.name? = some name ∧ (name, w) ∈ rows.map fun r => (f r).field :=
      (forall_entries_iff hperm).2 fun r hr =>
        ⟨_, hkeeps r hr, _, hname r hr, List.mem_map.2 ⟨r, hr, rfl⟩⟩
    choose! value hvalue hpresent using hentries
    refine .dict value ?_ hvalue hpresent
    rw [← hperm.length_eq, List.length_map, List.length_map]

end Fields

theorem fate_of_encode_dict {entries : List (Value × Value)}
    (ih : ∀ e ∈ entries, (∀ bs, encode u e.1 = .ok bs → Fate e.1 bs) ∧
      ∀ bs, encode u e.2 = .ok bs → Fate e.2 bs)
    (h : encode u (.dict entries) = .ok bs) : Fate (.dict entries) bs := by
  obtain ⟨rows, hperm, rfl, hrows⟩ := exists_rows_of_encode_dict h
  have hfate : ∀ r ∈ rows, (∃ f, r.Reads f) ∨ (¬ (r.entry.1.stringBytes?.isSome = true ∧
      r.entry.1.Legible ∧ r.entry.2.Legible) ∧ r.Refused) := by
    intro r hr
    obtain ⟨ihk, ihv⟩ := (forall_entries_iff hperm).1 ih r hr
    exact (hrows r hr).reads_or_refused (ihk _ (hrows r hr).key) (ihv _ (hrows r hr).value)
  by_cases hall : ∀ r ∈ rows, ∃ f, r.Reads f
  · choose! f hf using hall
    have hname : ∀ r ∈ rows, r.entry.1.name? = some (f r).field.1 := fun r hr => by
      rw [Value.name?, (hf r hr).bytes]
      rfl
    have hdict := Derives.dict (rows.map f) (List.forall_mem_map.2 fun r hr => (hf r hr).counts)
      (List.forall_mem_map.2 fun r hr => (hf r hr).derives)
    have hcode : (rows.map f).flatMap FieldCode.code = rows.flatMap Row.code := by
      rw [List.flatMap_map]
      exact List.flatMap_congr fun r hr => (hf r hr).code
    rw [hcode, List.map_map] at hdict
    refine .read ?_ hdict ?_
    · rw [legible_dict_iff hperm]
      intro r hr
      rw [(hf r hr).bytes]
      exact ⟨rfl, (hf r hr).legible⟩
    · refine (keeps_dict_iff hperm hname).trans ?_
      rw [Value.DistinctNames, Value.forall_within_dict, forall_entries_iff hperm]
      refine and_congr_right fun _ => forall₂_congr fun r hr => ?_
      rw [(hf r hr).keeps]
      exact (and_iff_right (Value.distinctNames_of_string (hf r hr).bytes)).symm
  · simp only [not_forall] at hall
    obtain ⟨r, hr, hno⟩ := hall
    obtain ⟨hillegible, hrefused⟩ := (hfate r hr).resolve_left hno
    refine .refused ?_ (refused_dict (fun r hr => (hfate r hr).imp_right And.right) ⟨r, hr, hrefused⟩)
    rw [legible_dict_iff hperm]
    exact fun h => hillegible (h r hr)

/-- What is written is legible and read, or it is refused. -/
theorem fate_of_encode : ∀ bs, encode u v = .ok bs → Fate v bs := by
  induction v using Value.inside_induction with
  | null => intro bs h; cases h
  | bool b => intro bs h; cases h
  | float x => intro bs h; cases h
  | text s =>
    intro bs h
    rw [eq_counted_of_encode_text h]
    exact fate_of_string rfl Value.legible_text_iff (Value.distinctNames_of_string rfl)
  | bytes s =>
    rintro _ ⟨⟩
    exact fate_of_string rfl Value.legible_bytes_iff (Value.distinctNames_of_string rfl)
  | int n =>
    intro bs h
    rw [encode] at h
    split at h
    · next digits =>
      cases h
      have clear : (101 : UInt8) ∉ ascii (toString n) := fun h =>
        absurd (Numeral.le_of_mem_encode_toString h) (by decide)
      exact .read Value.legible_int (.int clear (Numeral.ofBytes_toString digits))
        (iff_of_true (.int n) Value.distinctNames_int)
    · cases h
  | list items ih =>
    intro bs h
    rw [encode] at h
    split at h
    · cases h
    · next cs hcs =>
      cases h
      exact fate_of_encodeItems Value.legible_list_iff Value.distinctNames_list_iff
        Value.Keeps.list_iff ih hcs
  | tuple items ih =>
    intro bs h
    rw [encode] at h
    split at h
    · cases h
    · next cs hcs =>
      cases h
      exact fate_of_encodeItems Value.legible_tuple_iff Value.distinctNames_tuple_iff
        Value.Keeps.tuple_iff ih hcs
  | dict entries ih => exact fun bs h => fate_of_encode_dict ih h

/-- What is written is decoded exactly if the keys of all dictionaries, at any depth, are text or
    bytes, and all lengths can be read; and every entry of every dictionary is there again exactly
    if the names of the keys of each dictionary are distinct besides. -/
theorem decode_of_encode_iff (h : encode u v = .ok bs) :
    ((∃ w, decode bs = .ok w) ↔ v.Legible) ∧
    ((∃ w, decode bs = .ok w ∧ Keeps v w) ↔ v.Legible ∧ v.DistinctNames) := by
  cases fate_of_encode bs h with
  | @read w legible derives keeps =>
    have hdecode := decode_eq_ok_iff.2 derives
    refine ⟨iff_of_true ⟨w, hdecode⟩ legible, ?_, fun h => ⟨w, hdecode, keeps.2 h.2⟩⟩
    rintro ⟨w', hdecode', hkeeps⟩
    rw [hdecode] at hdecode'
    cases hdecode'
    exact ⟨legible, keeps.1 hkeeps⟩
  | refused illegible refused =>
    refine ⟨iff_of_false ?_ illegible, iff_of_false ?_ fun h => illegible h.1⟩
    · rintro ⟨w, hdecode⟩
      exact refused.decode_ne hdecode
    · rintro ⟨w, hdecode, -⟩
      exact refused.decode_ne hdecode

theorem encode_eq_ok_of_toOption (h : (encode u v).toOption = some bs) : encode u v = .ok bs := by
  cases hv : encode u v with
  | error x =>
    rw [hv] at h
    cases h
  | ok cs =>
    rw [hv] at h
    cases h
    rfl

/-- A text and bytes that are keys with different names are read back, with a tuple as a list. -/
theorem decode_of_encode_iff_text_and_bytes :
    let v : Value := .dict [(.bytes [98], .tuple [.int 1]), (.text "a", .int 2)]
    let bs := ascii "d1:ai2e1:bli1eee"
    encode [] v = .ok bs ∧ ((∃ w, decode bs = .ok w) ↔ v.Legible) ∧
      ((∃ w, decode bs = .ok w ∧ Keeps v w) ↔ v.Legible ∧ v.DistinctNames) := by
  intro v bs
  have h : encode [] v = .ok bs := encode_eq_ok_of_toOption (by decide +kernel)
  exact ⟨h, decode_of_encode_iff h⟩

/-- A number in the place of a key is refused for what it is. -/
theorem decode_of_number_key {m : Int} (digits : Numeral.printable m = true) (rest : List UInt8) :
    decode (100 :: (written (.int m) ++ rest)) = .error (.keyNotText "int") := by
  have hopen : piece 0 100 (written (.int m) ++ rest) = .ok (.dict, 0) := rfl
  have hkey : deliver (.int m) [.dict [] none] = .error (.keyNotText "int") := rfl
  rw [decode, read, readFrom_of_piece hopen, take, resume, List.drop_zero, readsAs_int digits,
    hkey, resume]

/-- A number that is a key is written and not read back, and a text and bytes that are keys with the
    same name are written both, and one of the entries is read back. -/
theorem encode_keys_lost :
    (encode [] (.dict [(.int 1, .int 2)]) = .ok (ascii "di1ei2ee") ∧
      decode (ascii "di1ei2ee") = .error (.keyNotText "int")) ∧
    encode [] (.dict [(.text "a", .int 1), (.bytes [97], .int 2)]) = .ok (ascii "d1:ai1e1:ai2ee") ∧
      decode (ascii "d1:ai1e1:ai2ee") = .ok (.ofFields [("a", .int 2)]) := by
  let fields : List (String × Value) := [("a", .int 1), ("a", .int 2)]
  have hkeys : ∀ f ∈ fields, Numeral.printable (Utf8.encode f.1.toList).length = true := by
    decide +kernel
  have hvalues : ∀ f ∈ fields, ReadsAs (written f.2) f.2 :=
    List.forall_mem_cons.2 ⟨readsAs_int (by decide +kernel),
      List.forall_mem_singleton.2 (readsAs_int (by decide +kernel))⟩
  have hbytes : 100 :: ((fields.map FieldCode.ofField).flatMap FieldCode.code ++ [101]) =
      ascii "d1:ai1e1:ai2ee" := by decide +kernel
  have hlast : Value.lastWins fields = [("a", .int 2)] := rfl
  have hread := (readsAs_lastWins hkeys hvalues).decode
  rw [hbytes, hlast] at hread
  exact ⟨⟨encode_eq_ok_of_toOption (by decide +kernel),
    decode_of_number_key (m := 1) (by decide +kernel) (ascii "i2ee")⟩,
    encode_eq_ok_of_toOption (by decide +kernel), hread⟩

end Bencode

end FormEdit
