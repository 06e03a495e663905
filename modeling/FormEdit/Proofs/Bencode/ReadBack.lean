import FormEdit.Proofs.Bencode.Longer
import FormEdit.Proofs.Bencode.Written
import FormEdit.Proofs.Number.Numeral

set_option autoImplicit false

/-! # Reading what is written

Bytes read as a value if reading delivers the value and goes on behind them, inside of whatever
containers are open and whatever stands there (`ReadsAs`). Numbers and strings that are written read
so, and containers read so if what is in them does. Hence a value that is written in order reads as
itself (`readsAs_written`). -/

namespace FormEdit.Bencode

open Value (Storable sortFields sortFields_perm)

variable {place n : Nat} {b : UInt8} {r bs rest : List UInt8} {frames : List Frame} {p : Piece}
  {v : Value}

/-! ## Reading on -/

/-- Go on reading behind a piece that is taken in. -/
def resume (place : Nat) (rest : List UInt8) : Except Fault Progress → Reading
  | .error fault => .malformed fault
  | .ok (.whole v) => .done v rest
  | .ok (.inside frames) => readFrom place frames rest

theorem readFrom_of_piece (h : piece place b r = .ok (p, n)) :
    readFrom place frames (b :: r) = resume (place + n + 1) (r.drop n) (take place p frames) := by
  rw [readFrom, h]
  dsimp only
  cases take place p frames with
  | error fault => rfl
  | ok progress => cases progress <;> rfl

/-- Bytes that deliver a value, and no more, wherever they stand. -/
def ReadsAs (bs : List UInt8) (v : Value) : Prop :=
  ∀ place frames rest,
    readFrom place frames (bs ++ rest) = resume (place + bs.length) rest (deliver v frames)

theorem ReadsAs.read (h : ReadsAs bs v) (rest : List UInt8) : read (bs ++ rest) = .done v rest :=
  h 0 [] rest

theorem ReadsAs.decode (h : ReadsAs bs v) : decode bs = .ok v := by
  have hread := h.read []
  rw [List.append_nil] at hread
  rw [Bencode.decode, hread]

/-! ## Numbers and strings -/

/-- A numeral between its marks delivers its number. -/
theorem readsAs_numeral {digits : List UInt8} {m : Int} (clear : (101 : UInt8) ∉ digits)
    (hm : Numeral.ofBytes digits = .ok m) : ReadsAs (105 :: (digits ++ [101])) (.int m) := by
  intro place frames rest
  have hpiece : piece place 105 (digits ++ 101 :: rest) =
      .ok (.value (.int m), digits.length + 1) := by
    rw [piece, if_pos rfl, splitAtMark_append_cons clear]
    dsimp only
    rw [hm]
  have hbytes : 105 :: (digits ++ [101]) ++ rest = 105 :: (digits ++ 101 :: rest) := by
    rw [List.cons_append, List.append_assoc, List.singleton_append]
  have hdrop : (digits ++ 101 :: rest).drop (digits.length + 1) = rest := by
    rw [← List.drop_drop, List.drop_left]
    rfl
  rw [hbytes, readFrom_of_piece hpiece, hdrop, take]
  rw [List.length_cons, List.length_append, List.length_singleton]
  rfl

theorem readsAs_int {m : Int} (digits : Numeral.printable m = true) :
    ReadsAs (written (.int m)) (.int m) := by
  have hend : (101 : UInt8) ∉ ascii (toString m) := fun h =>
    absurd (Numeral.le_of_mem_encode_toString h) (by decide)
  exact readsAs_numeral hend (Numeral.ofBytes_toString digits)

theorem isDigit_iff : isDigit b = true ↔ 48 ≤ b.toNat ∧ b.toNat ≤ 57 := by
  simp [isDigit, UInt8.le_iff_toNat_le]

/-- Whether `code` is bytes behind their length: the length begins with a digit, ends before the
    first colon, and counts the bytes. -/
def IsString (code bs : List UInt8) : Prop :=
  ∃ b s, code = b :: (s ++ 58 :: bs) ∧ isDigit b = true ∧ (58 : UInt8) ∉ s ∧
    Numeral.ofBytes (b :: s) = .ok (bs.length : Int)

theorem ne_of_isDigit (hdigit : isDigit b = true) {mark : UInt8} (hmark : isDigit mark = false) :
    b ≠ mark := by
  rintro rfl
  rw [hdigit] at hmark
  cases hmark

/-- A length that begins with a digit is split off at the colon behind it. -/
theorem splitAtMark_length {s : List UInt8} (hdigit : isDigit b = true) (clear : (58 : UInt8) ∉ s)
    (r : List UInt8) : splitAtMark 58 (b :: (s ++ 58 :: r)) = some (b :: s, r) := by
  have hcolon : (58 : UInt8) ∉ b :: s := by
    rw [List.mem_cons, not_or]
    exact ⟨(ne_of_isDigit hdigit (by decide)).symm, clear⟩
  rw [← List.cons_append, splitAtMark_append_cons hcolon]

theorem piece_string {s : List UInt8} (hdigit : isDigit b = true) (clear : (58 : UInt8) ∉ s)
    (length : Numeral.ofBytes (b :: s) = .ok (bs.length : Int)) (rest : List UInt8) :
    piece place b (s ++ 58 :: (bs ++ rest)) =
      .ok (.value (ofBytes bs), s.length + 1 + bs.length) := by
  have hlen : ¬ (bs ++ rest).length < bs.length := by
    rw [List.length_append]
    exact Nat.not_lt.2 (Nat.le_add_right ..)
  rw [piece, if_neg (ne_of_isDigit hdigit (by decide)), if_pos hdigit,
    splitAtMark_length hdigit clear]
  dsimp only
  rw [length]
  dsimp only
  rw [Int.toNat_natCast, if_neg hlen, List.take_left, List.length_cons]

/-- Bytes behind their length deliver them. -/
theorem IsString.readsAs {code : List UInt8} (h : IsString code bs) :
    ReadsAs code (ofBytes bs) := by
  intro place frames rest
  obtain ⟨b, s, rfl, hdigit, clear, length⟩ := h
  have hbytes : b :: (s ++ 58 :: bs) ++ rest = b :: (s ++ 58 :: (bs ++ rest)) := by
    rw [List.cons_append, List.append_assoc, List.cons_append]
  have hdrop : (s ++ 58 :: (bs ++ rest)).drop (s.length + 1 + bs.length) = rest := by
    rw [← List.drop_drop, ← List.drop_drop, List.drop_left, List.drop_one, List.tail_cons,
      List.drop_left]
  have hcount : (b :: (s ++ 58 :: bs)).length = s.length + 1 + bs.length + 1 := by
    rw [List.length_cons, List.length_append, List.length_cons]
    omega
  rw [hbytes, readFrom_of_piece (piece_string hdigit clear length rest), hdrop, take, hcount]
  rfl

/-- A length that is written begins with a digit and has no colon. -/
theorem exists_length_cons (m : Nat) :
    ∃ b s, ascii (toString m) = b :: s ∧ isDigit b = true ∧ (58 : UInt8) ∉ s := by
  have hdigit : ∀ x ∈ ascii (toString m), 48 ≤ x.toNat ∧ x.toNat ≤ 57 := fun x hx =>
    Numeral.isDigit_of_mem_encode hx
  obtain ⟨b, s, h⟩ : ∃ b s, ascii (toString m) = b :: s :=
    List.exists_cons_of_ne_nil (Numeral.encode_toString_ne_nil m)
  rw [h] at hdigit
  refine ⟨b, s, h, isDigit_iff.2 (hdigit b List.mem_cons_self), fun hcolon => ?_⟩
  exact absurd (hdigit 58 (List.mem_cons_of_mem b hcolon)).2 (by decide)

theorem isString_counted (length : Numeral.printable bs.length = true) :
    IsString (counted bs) bs := by
  rw [Numeral.printable_iff, Int.natAbs_natCast] at length
  obtain ⟨b, s, h, hdigit, clear⟩ := exists_length_cons bs.length
  have hread : Numeral.ofBytes (ascii (toString bs.length)) = .ok (bs.length : Int) :=
    Numeral.ofBytes_toString_nat length
  rw [h] at hread
  exact ⟨b, s, by rw [counted, h, List.cons_append], hdigit, clear, hread⟩

theorem readsAs_counted (length : Numeral.printable bs.length = true) :
    ReadsAs (counted bs) (ofBytes bs) := (isString_counted length).readsAs

theorem readsAs_text {s : String}
    (length : Numeral.printable (Utf8.encode s.toList).length = true) :
    ReadsAs (written (.text s)) (.text s) := by
  have h := readsAs_counted length
  rwa [Value.ofBytes_encode] at h

/-! ## Containers -/

theorem readFrom_items {α : Type} {items : List α} {acc : List Value} {code : α → List UInt8}
    {message : α → Value} (h : ∀ v ∈ items, ReadsAs (code v) (message v)) (place : Nat)
    (rest : List UInt8) :
    readFrom place (.list acc :: frames) (items.flatMap code ++ rest) =
      readFrom (place + (items.flatMap code).length)
        (.list ((items.map message).reverse ++ acc) :: frames) rest := by
  induction items generalizing acc place with
  | nil => rfl
  | cons v items ih =>
    have hv := h v List.mem_cons_self
    have hitems : ∀ w ∈ items, ReadsAs (code w) (message w) := fun w hw =>
      h w (List.mem_cons_of_mem v hw)
    rw [List.flatMap_cons, List.append_assoc, hv, deliver, resume, ih hitems, List.length_append,
      List.map_cons, List.reverse_cons, List.append_assoc, List.singleton_append, Nat.add_assoc]

theorem readsAs_items {α : Type} {items : List α} {code : α → List UInt8} {message : α → Value}
    (h : ∀ v ∈ items, ReadsAs (code v) (message v)) :
    ReadsAs (108 :: (items.flatMap code ++ [101])) (.list (items.map message)) := by
  intro place frames rest
  have hopen : piece place 108 (items.flatMap code ++ [101] ++ rest) = .ok (.list, 0) := rfl
  have hclose : ∀ place, piece place 101 rest = .ok (.finish, 0) := fun _ => rfl
  rw [List.cons_append, readFrom_of_piece hopen, take, resume, List.drop_zero, List.append_assoc,
    readFrom_items h, List.singleton_append, readFrom_of_piece (hclose _), take, List.append_nil,
    List.reverse_reverse, List.length_cons, List.length_append, List.length_singleton]
  congr 1
  omega

theorem readsAs_list {items : List Value} {code : Value → List UInt8} {message : Value → Value}
    (h : ∀ v ∈ items, ReadsAs (code v) (message v)) :
    ReadsAs (108 :: (items.flatMap code ++ [101])) (.list (items.map message)) := readsAs_items h

/-- The text of a name, with replacement where it is no UTF-8. -/
def nameText (name : List UInt8) : String := String.ofList (Utf8.decodeLossy name)

/-- Names are texts, whatever their bytes are. -/
theorem deliver_ofBytes (name : List UInt8) (entries : List (Value × Value)) :
    deliver (ofBytes name) (.dict entries none :: frames) =
      .ok (.inside (.dict entries (some (nameText name)) :: frames)) := by
  rcases Value.ofBytes_cases name with ⟨s, h, hs⟩ | h
  · rw [h, deliver, nameText, ← hs, Utf8.decodeLossy_encode, String.ofList_toList]
  · rw [h, deliver, nameText]

/-- The bytes of a field, a name behind its length and a value, and what they hold. -/
structure FieldCode where
  nameCode : List UInt8
  name : List UInt8
  valueCode : List UInt8
  value : Value
  deriving Inhabited

namespace FieldCode

def code (f : FieldCode) : List UInt8 := f.nameCode ++ f.valueCode

def field (f : FieldCode) : String × Value := (nameText f.name, f.value)

/-- The entries of a dictionary into which fields are put one by one. -/
def putInto (entries : List (Value × Value)) (fs : List FieldCode) : List (Value × Value) :=
  (fs.map field).foldl (fun entries f => Value.insert entries (.text f.1) f.2) entries

/-- A field as it is written. -/
def ofField (f : String × Value) : FieldCode :=
  ⟨counted (Utf8.encode f.1.toList), Utf8.encode f.1.toList, written f.2, f.2⟩

theorem field_ofField (f : String × Value) : (ofField f).field = f := by
  rw [field, ofField, nameText, Utf8.decodeLossy_encode, String.ofList_toList]

theorem map_field_ofField (fields : List (String × Value)) :
    (fields.map ofField).map field = fields := by
  rw [List.map_map]
  exact List.map_id'' field_ofField fields

theorem dict_putInto_nil (fs : List FieldCode) :
    Value.dict (putInto [] fs) = .ofFields (Value.lastWins (fs.map field)) := by
  rw [putInto, Value.foldl_insert_eq_lastWins, Value.ofFields]

end FieldCode

theorem readFrom_fields {fs : List FieldCode} {entries : List (Value × Value)}
    (names : ∀ f ∈ fs, IsString f.nameCode f.name)
    (values : ∀ f ∈ fs, ReadsAs f.valueCode f.value) (place : Nat) (rest : List UInt8) :
    readFrom place (.dict entries none :: frames) (fs.flatMap FieldCode.code ++ rest) =
      readFrom (place + (fs.flatMap FieldCode.code).length)
        (.dict (FieldCode.putInto entries fs) none :: frames) rest := by
  induction fs generalizing entries place with
  | nil => rfl
  | cons f fs ih =>
    have hname := (names f List.mem_cons_self).readsAs
    have hvalue := values f List.mem_cons_self
    have ih := fun entries place => @ih entries (fun g hg => names g (List.mem_cons_of_mem f hg))
      (fun g hg => values g (List.mem_cons_of_mem f hg)) place
    rw [List.flatMap_cons, FieldCode.code, List.append_assoc, List.append_assoc, hname,
      deliver_ofBytes, resume, hvalue, deliver, resume, ih, List.length_append, List.length_append,
      Nat.add_assoc, Nat.add_assoc, Nat.add_assoc]
    rfl

/-- Fields between their marks deliver the dictionary in which the last of each name holds. -/
theorem readsAs_fields {fs : List FieldCode} (names : ∀ f ∈ fs, IsString f.nameCode f.name)
    (values : ∀ f ∈ fs, ReadsAs f.valueCode f.value) :
    ReadsAs (100 :: (fs.flatMap FieldCode.code ++ [101]))
      (.ofFields (Value.lastWins (fs.map FieldCode.field))) := by
  intro place frames rest
  have hopen : piece place 100 (fs.flatMap FieldCode.code ++ [101] ++ rest) = .ok (.dict, 0) := rfl
  have hclose : ∀ place, piece place 101 rest = .ok (.finish, 0) := fun _ => rfl
  rw [List.cons_append, readFrom_of_piece hopen, take, resume, List.drop_zero, List.append_assoc,
    readFrom_fields names values, List.singleton_append, readFrom_of_piece (hclose _), take,
    List.drop_zero, List.length_cons, List.length_append, List.length_singleton,
    FieldCode.dict_putInto_nil]
  congr 1
  omega

/-- Written fields read as the dictionary of them, whatever names come again. -/
theorem readsAs_lastWins {fields : List (String × Value)}
    (hk : ∀ f ∈ fields, Numeral.printable (Utf8.encode f.1.toList).length = true)
    (hv : ∀ f ∈ fields, ReadsAs (written f.2) f.2) :
    ReadsAs (100 :: ((fields.map FieldCode.ofField).flatMap FieldCode.code ++ [101]))
      (.ofFields (Value.lastWins fields)) := by
  have names : ∀ f ∈ fields.map FieldCode.ofField, IsString f.nameCode f.name :=
    List.forall_mem_map.2 fun f hf => isString_counted (hk f hf)
  have hread := readsAs_fields names (List.forall_mem_map.2 hv)
  rwa [FieldCode.map_field_ofField] at hread

theorem readsAs_ofFields {fields : List (String × Value)} (hd : (fields.map Prod.fst).Nodup)
    (hk : ∀ f ∈ fields, Numeral.printable (Utf8.encode f.1.toList).length = true)
    (hv : ∀ f ∈ fields, ReadsAs (written f.2) f.2) :
    ReadsAs (written (.ofFields fields)) (.ofFields fields) := by
  have hread := readsAs_lastWins hk hv
  rw [List.flatMap_map, Value.lastWins_eq_self hd] at hread
  rw [written_ofFields]
  exact hread

/-- A dictionary with one field reads as itself if the value of the field does. -/
theorem readsAs_singleton {name : String}
    (hname : Numeral.printable (Utf8.encode name.toList).length = true)
    (hv : ReadsAs (written v) v) :
    ReadsAs (written (.ofFields [(name, v)])) (.ofFields [(name, v)]) :=
  readsAs_ofFields (List.nodup_singleton _) (List.forall_mem_singleton.2 hname)
    (List.forall_mem_singleton.2 hv)

/-- What is written in order reads as itself. -/
theorem readsAs_written (h : v.Storable) : ReadsAs (written v.normal.sorted) v.normal.sorted := by
  induction h with
  | text s length => exact readsAs_text length
  | bytes bs length =>
    rw [Value.normal, Value.sorted_ofBytes, written_ofBytes]
    exact readsAs_counted length
  | int n digits => exact readsAs_int digits
  | list items _ ih =>
    rw [Value.sorted_normal_list, written_list, List.flatMap_map]
    exact readsAs_list ih
  | tuple items _ ih =>
    rw [Value.sorted_normal_tuple, written_list, List.flatMap_map]
    exact readsAs_list ih
  | dict fields distinct keys _ _ ih =>
    have hperm := sortFields_perm fields
    rw [Value.sorted_normal_ofFields]
    refine readsAs_ofFields ?_ ?_ ?_
    · exact Value.nodup_names_map (Value.nodup_names_sortFields distinct) fun v => v.normal.sorted
    · exact List.forall_mem_map.2 fun f hf => (keys f (hperm.mem_iff.1 hf)).length_name
    · exact List.forall_mem_map.2 fun f hf => ih f (hperm.mem_iff.1 hf)

end FormEdit.Bencode
