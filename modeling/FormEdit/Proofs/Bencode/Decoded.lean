import FormEdit.Proofs.Bencode.Longer
import FormEdit.Proofs.Bencode.Normal
import FormEdit.Proofs.Number.Numeral

set_option autoImplicit false

/-! # What reading gives

Whatever bytes are read, the value is in normal form and can be written again
(`decoded_of_decode`). Reading keeps this of every container that is open: items and values of
fields are such values, and names are there once, as a name that comes again takes the place of the
first.

A name that is no UTF-8 is longer once its flaws are replaced, by three bytes in the place of one,
and its length has to be written too (`Roomy`). -/

namespace FormEdit.Bencode

variable {place n : Nat} {b : UInt8} {r bs rest : List UInt8} {frames : List Frame} {p : Piece}
  {v : Value} {k : String} {progress : Progress} {fields : List (String × Value)}

/-- A value as reading gives it. -/
structure Decoded (v : Value) : Prop where
  storable : v.Storable
  normal : v.IsNormal

/-- Fields as reading gives them. -/
structure DecodedFields (fields : List (String × Value)) : Prop where
  distinct : (fields.map Prod.fst).Nodup
  names : ∀ f ∈ fields, Value.Storable (.text f.1)
  values : ∀ f ∈ fields, Decoded f.2

/-- An open container that holds what reading gives. -/
def Frame.Sound : Frame → Prop
  | .list items => ∀ v ∈ items, Decoded v
  | .dict entries key =>
    (∃ fields, entries = fields.map (fun f => (.text f.1, f.2)) ∧ DecodedFields fields) ∧
      ∀ k ∈ key, Value.Storable (.text k)

/-- Bytes of which three times as many can still be counted. A numeral that counts bytes may have
    thousands of digits, so all bytes that a machine can hold are such. -/
def Roomy (bs : List UInt8) : Prop := Numeral.printable (3 * bs.length : Nat) = true

/-- A value that may be delivered: if it is to be a name, there is room for what replaces its
    flaws. -/
def Deliverable (v : Value) : Prop := Decoded v ∧ ∀ bs, v = .bytes bs → Roomy bs

def Piece.Sound : Piece → Prop
  | .value v => Deliverable v
  | _ => True

def Progress.Sound : Progress → Prop
  | .whole v => Decoded v
  | .inside frames => ∀ f ∈ frames, f.Sound

/-! ## Pieces -/

theorem printable_of_le {m l : Nat} (hl : Numeral.printable (l : Int) = true) (h : m ≤ l) :
    Numeral.printable (m : Int) = true := by
  rw [Numeral.printable_iff, Int.natAbs_natCast] at hl ⊢
  exact Nat.lt_of_le_of_lt h hl

theorem Roomy.of_le (h : Roomy bs) (hle : r.length ≤ bs.length) : Roomy r :=
  printable_of_le h (Nat.mul_le_mul_left 3 hle)

theorem deliverable_ofBytes (length : Numeral.printable bs.length = true) (hroom : Roomy bs) :
    Deliverable (ofBytes bs) := by
  refine ⟨⟨.ofBytes length, .ofBytes bs⟩, fun cs h => ?_⟩
  rcases Value.ofBytes_cases bs with ⟨s, hs, -⟩ | hs
  · simp [hs] at h
  · rw [hs] at h
    cases h
    exact hroom

theorem piece_sound (h : piece place b r = .ok (p, n)) (hroom : Roomy r) : p.Sound := by
  unfold piece at h
  split_ifs at h with hint hdigit
  · split at h
    · cases h
    · next digits behind hs =>
      split at h
      · cases h
      · next m hm =>
        cases h
        exact ⟨⟨.int m (Numeral.printable_of_ofBytes hm), .int m⟩, by simp⟩
  · split at h
    · cases h
    · next digits behind hs =>
      have hlen := congrArg List.length (eq_of_splitAtMark hs).1
      rw [List.length_append, List.length_cons, List.length_cons] at hlen
      split at h
      · cases h
      · next m hm =>
        split at h
        · cases h
        · next hle =>
          cases h
          have htake : (behind.take m.toNat).length = m.toNat :=
            List.length_take_of_le (Nat.not_lt.1 hle)
          have hprint : Numeral.printable (m.toNat : Int) = true := by
            have hm := Numeral.printable_of_ofBytes hm
            have hnat : (m.toNat : Int).natAbs ≤ m.natAbs := by omega
            rw [Numeral.printable_iff] at hm ⊢
            exact Nat.lt_of_le_of_lt hnat hm
          refine deliverable_ofBytes (by rwa [htake]) (hroom.of_le ?_)
          rw [htake]
          omega
  all_goals
    cases h
    trivial

/-! ## Containers -/

/-- What takes the place of flaws in a name has room. -/
theorem storable_decodeLossy (h : Roomy bs) :
    Value.Storable (.text (String.ofList (Utf8.decodeLossy bs))) := by
  refine .text _ ?_
  rw [String.toList_ofList]
  exact printable_of_le h (Utf8.length_encode_decodeLossy_le bs)

/-- Fields stay such fields when one is put in, with a new name or with one that is there. -/
theorem DecodedFields.insert (h : DecodedFields fields) (hk : Value.Storable (.text k))
    (hv : Decoded v) :
    ∃ gs, Value.insert (fields.map fun f => (.text f.1, f.2)) (.text k) v =
      gs.map (fun f => (.text f.1, f.2)) ∧ DecodedFields gs := by
  obtain ⟨gs, hgs, hdistinct, hmem⟩ := Value.exists_insert_fields h.distinct k v
  refine ⟨gs, hgs, hdistinct, fun g hg => ?_, fun g hg => ?_⟩
  · rcases hmem g hg with hg | rfl
    · exact h.names g hg
    · exact hk
  · rcases hmem g hg with hg | rfl
    · exact h.values g hg
    · exact hv

theorem deliver_sound (hv : Deliverable v) (hf : ∀ f ∈ frames, f.Sound)
    (h : deliver v frames = .ok progress) : progress.Sound := by
  cases frames with
  | nil =>
    cases h
    exact hv.1
  | cons frame fs =>
    have hfs : ∀ f ∈ fs, f.Sound := fun f hmem => hf f (List.mem_cons_of_mem frame hmem)
    have hframe := hf frame List.mem_cons_self
    have inside : ∀ {frame : Frame}, frame.Sound → ∀ f ∈ frame :: fs, f.Sound := by
      intro frame hsound
      exact List.forall_mem_cons.2 ⟨hsound, hfs⟩
    cases frame with
    | list items =>
      cases h
      exact inside (List.forall_mem_cons.2 ⟨hv.1, hframe⟩)
    | dict entries key =>
      obtain ⟨⟨fields, rfl, hfields⟩, hkey⟩ := hframe
      cases key with
      | some k =>
        cases h
        obtain ⟨gs, hgs, hsound⟩ := hfields.insert (hkey k rfl) hv.1
        exact inside ⟨⟨gs, hgs, hsound⟩, by simp⟩
      | none =>
        cases v with
        | text s =>
          cases h
          refine inside ⟨⟨fields, rfl, hfields⟩, ?_⟩
          rintro t ⟨⟩
          exact hv.1.storable
        | bytes bs =>
          cases h
          refine inside ⟨⟨fields, rfl, hfields⟩, ?_⟩
          rintro t ⟨⟩
          exact storable_decodeLossy (hv.2 bs rfl)
        | _ => cases h

theorem deliverable_list {items : List Value} (h : ∀ v ∈ items, Decoded v) :
    Deliverable (.list items.reverse) := by
  refine ⟨⟨.list _ ?_, .list _ ?_⟩, by simp⟩
  · exact fun v hv => (h v (List.mem_reverse.1 hv)).storable
  · exact fun v hv => (h v (List.mem_reverse.1 hv)).normal

theorem deliverable_ofFields (h : DecodedFields fields) : Deliverable (.ofFields fields) := by
  refine ⟨⟨.dict fields h.distinct h.names ?_, .dict fields h.distinct ?_⟩, ?_⟩
  · exact fun f hf => (h.values f hf).storable
  · exact fun f hf => (h.values f hf).normal
  · intro bs hbs
    cases hbs

theorem take_sound (hp : p.Sound) (hf : ∀ f ∈ frames, f.Sound)
    (h : take place p frames = .ok progress) : progress.Sound := by
  cases p with
  | value v => exact deliver_sound hp hf h
  | list =>
    cases h
    exact List.forall_mem_cons.2 ⟨by simp [Frame.Sound], hf⟩
  | dict =>
    cases h
    refine List.forall_mem_cons.2 ⟨⟨⟨[], rfl, ?_⟩, by simp⟩, hf⟩
    exact ⟨List.nodup_nil, by simp, by simp⟩
  | finish =>
    cases frames with
    | nil => cases h
    | cons frame fs =>
      have hfs : ∀ f ∈ fs, f.Sound := fun f hmem => hf f (List.mem_cons_of_mem frame hmem)
      have hframe := hf frame List.mem_cons_self
      cases frame with
      | list items => exact deliver_sound (deliverable_list hframe) hfs h
      | dict entries key =>
        obtain ⟨⟨fields, rfl, hfields⟩, -⟩ := hframe
        cases key with
        | none => exact deliver_sound (deliverable_ofFields hfields) hfs h
        | some k => cases h

/-! ## Whole values -/

theorem decoded_of_readFrom (hf : ∀ f ∈ frames, f.Sound) (hroom : Roomy bs)
    (h : readFrom place frames bs = .done v rest) : Decoded v := by
  fun_induction readFrom place frames bs with
  | case1 => cases h
  | case2 => cases h
  | case3 => cases h
  | case4 => cases h
  | case5 place frames b r p n hp v ht =>
    cases h
    have hr : Roomy r := hroom.of_le (Nat.le_succ _)
    exact take_sound (piece_sound hp hr) hf ht
  | case6 place frames b r p n hp frames' ht ih =>
    have hr : Roomy r := hroom.of_le (Nat.le_succ _)
    have hsound : Progress.Sound (.inside frames') := take_sound (piece_sound hp hr) hf ht
    refine ih hsound (hr.of_le ?_) h
    rw [List.length_drop]
    exact Nat.sub_le ..

/-- What reads as a value can be written, and is in normal form. -/
theorem decoded_of_decode (hroom : Roomy bs) (h : decode bs = .ok v) : Decoded v := by
  unfold decode at h
  split at h
  · cases h
  · cases h
  · next hread =>
    cases h
    exact decoded_of_readFrom (by simp) hroom hread
  · cases h

end FormEdit.Bencode
