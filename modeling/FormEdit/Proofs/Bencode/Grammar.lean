import FormEdit.Proofs.Bencode.ReadBack

set_option autoImplicit false

/-! # The grammar of bencode

What is bencode is said here without a reader: a value is a numeral between its marks, bytes behind
their length, or values or fields between the marks of a container (`Derives`). Reading with a stack
of open containers gives exactly the values of this grammar (`decode_eq_ok_iff`). One way, what is
derived reads as its value wherever it stands. The other way, the bytes behind which reading stands
are spelled out by the open containers (`Spell`), each of which has begun a derivation, and a piece
carries that on. -/

namespace FormEdit.Bencode

variable {place n : Nat} {b : UInt8} {r bs rest code : List UInt8} {frames : List Frame} {p : Piece}
  {v : Value} {progress : Progress}

/-- Bytes and the value that they denote. In a dictionary in which a name comes again the last of
    its values holds. -/
inductive Derives : List UInt8 → Value → Prop
  | int {digits : List UInt8} {m : Int} (clear : (101 : UInt8) ∉ digits)
    (number : Numeral.ofBytes digits = .ok m) : Derives (105 :: (digits ++ [101])) (.int m)
  | string {code bs : List UInt8} (counts : IsString code bs) : Derives code (ofBytes bs)
  | list (parts : List (List UInt8 × Value)) (each : ∀ p ∈ parts, Derives p.1 p.2) :
    Derives (108 :: (parts.flatMap Prod.fst ++ [101])) (.list (parts.map Prod.snd))
  | dict (fs : List FieldCode) (names : ∀ f ∈ fs, IsString f.nameCode f.name)
    (values : ∀ f ∈ fs, Derives f.valueCode f.value) :
    Derives (100 :: (fs.flatMap FieldCode.code ++ [101]))
      (.ofFields (Value.lastWins (fs.map FieldCode.field)))

/-- What is derived reads as its value. -/
theorem Derives.readsAs (h : Derives bs v) : ReadsAs bs v := by
  induction h with
  | int clear number => exact readsAs_numeral clear number
  | string counts => exact counts.readsAs
  | list parts _ ih => exact readsAs_items ih
  | dict fs names _ ih => exact readsAs_fields names ih

/-- Text and bytes are derived as strings only. -/
theorem Derives.cases_string (h : Derives bs v) :
    (∃ s, IsString bs s ∧ v = ofBytes s) ∨ (∃ m, v = .int m) ∨ (∃ items, v = .list items) ∨
      ∃ entries, v = .dict entries := by
  cases h with
  | int _ _ => exact .inr (.inl ⟨_, rfl⟩)
  | string counts => exact .inl ⟨_, counts, rfl⟩
  | list parts _ => exact .inr (.inr (.inl ⟨_, rfl⟩))
  | dict fs _ _ => exact .inr (.inr (.inr ⟨_, rfl⟩))

/-! ## Pieces -/

/-- Whether a piece is spelled by bytes. -/
def Piece.Spells : Piece → List UInt8 → Prop
  | .value v, code => Derives code v
  | .list, code => code = [108]
  | .dict, code => code = [100]
  | .finish, code => code = [101]

theorem spells_of_piece (h : piece place b r = .ok (p, n)) : p.Spells (b :: r.take n) := by
  unfold piece at h
  split_ifs at h with hint hdigit hlist hdict hfinish
  · split at h
    · cases h
    · next digits behind hs =>
      obtain ⟨rfl, clear⟩ := eq_of_splitAtMark hs
      split at h
      · cases h
      · next m hm =>
        cases h
        have htake : (digits ++ 101 :: behind).take (digits.length + 1) = digits ++ [101] := by
          rw [List.take_length_add_append, List.take_succ_cons, List.take_zero]
        rw [hint, htake]
        exact .int clear hm
  · split at h
    · cases h
    · next digits behind hs =>
      obtain ⟨heq, clear⟩ := eq_of_splitAtMark hs
      split at h
      · cases h
      · next m hm =>
        split at h
        · cases h
        · next hle =>
          cases h
          -- The length is not empty, as its first byte is a digit and no colon.
          cases digits with
          | nil =>
            obtain ⟨rfl, -⟩ := List.cons.inj heq
            cases hdigit
          | cons d s =>
            obtain rfl : b = d := (List.cons.inj heq).1
            have hr : r = s ++ 58 :: behind := (List.cons.inj heq).2
            have hnat : ((behind.take m.toNat).length : Int) = m := by
              have := Numeral.nonneg_of_ofBytes_cons (isDigit_iff.1 hdigit) hm
              rw [List.length_take]
              omega
            have htake : (s ++ 58 :: behind).take ((b :: s).length + m.toNat) =
                s ++ 58 :: behind.take m.toNat := by
              rw [List.length_cons, Nat.add_assoc, List.take_length_add_append, Nat.add_comm 1,
                List.take_succ_cons]
            rw [hr, htake]
            exact .string ⟨b, s, rfl, hdigit, fun h => clear (List.mem_cons_of_mem b h),
              hm.trans (congrArg _ hnat.symm)⟩
  · cases h
    rw [List.take_zero, hlist]
    rfl
  · cases h
    rw [List.take_zero, hdict]
    rfl
  · cases h
    rw [List.take_zero, hfinish]
    rfl

/-! ## Open containers -/

/-- Bytes that begin a container, with its items or fields and with the name whose value comes
    next. -/
inductive Frame.Spells : Frame → List UInt8 → Prop
  | list (parts : List (List UInt8 × Value)) (each : ∀ p ∈ parts, Derives p.1 p.2) :
    Spells (.list (parts.map Prod.snd).reverse) (108 :: parts.flatMap Prod.fst)
  | dict (fs : List FieldCode) (names : ∀ f ∈ fs, IsString f.nameCode f.name)
    (values : ∀ f ∈ fs, Derives f.valueCode f.value) :
    Spells (.dict (FieldCode.putInto [] fs) none) (100 :: fs.flatMap FieldCode.code)
  | name (fs : List FieldCode) (names : ∀ f ∈ fs, IsString f.nameCode f.name)
    (values : ∀ f ∈ fs, Derives f.valueCode f.value) {code name : List UInt8}
    (counts : IsString code name) :
    Spells (.dict (FieldCode.putInto [] fs) (some (nameText name)))
      (100 :: (fs.flatMap FieldCode.code ++ code))

/-- Bytes that begin the containers that are open, the innermost last. -/
inductive Spell : List Frame → List UInt8 → Prop
  | nil : Spell [] []
  | cons {frame : Frame} {frames : List Frame} {outer inner : List UInt8} (inside : frame.Spells inner)
    (around : Spell frames outer) : Spell (frame :: frames) (outer ++ inner)

/-- What the bytes up to a point come to there: they begin the containers that are open, or they are
    derived. -/
def Progress.Spells : Progress → List UInt8 → Prop
  | .whole v, code => Derives code v
  | .inside frames, code => Spell frames code

/-- A value carries on the bytes before it. -/
theorem spells_of_deliver {before : List UInt8} (hf : Spell frames before) (hv : Derives code v)
    (h : deliver v frames = .ok progress) : progress.Spells (before ++ code) := by
  cases hf with
  | nil =>
    cases h
    exact hv
  | @cons frame frames outer inner inside around =>
    rw [List.append_assoc]
    cases inside with
    | list parts each =>
      cases h
      have hparts : ∀ p ∈ parts ++ [(code, v)], Derives p.1 p.2 :=
        List.forall_mem_append.2 ⟨each, List.forall_mem_singleton.2 hv⟩
      have hspells := Frame.Spells.list _ hparts
      simp only [List.map_append, List.map_singleton, List.reverse_append, List.flatMap_append,
        List.flatMap_singleton] at hspells
      exact .cons hspells around
    | dict fs names values =>
      -- Only text and bytes are names.
      rcases hv.cases_string with ⟨s, counts, rfl⟩ | ⟨m, rfl⟩ | ⟨items, rfl⟩ | ⟨entries, rfl⟩
      · rw [deliver_ofBytes] at h
        cases h
        exact .cons (.name fs names values counts) around
      all_goals cases h
    | @name fs names values nameCode name counts =>
      cases h
      let field : FieldCode := ⟨nameCode, name, code, v⟩
      have hnames : ∀ f ∈ fs ++ [field], IsString f.nameCode f.name :=
        List.forall_mem_append.2 ⟨names, List.forall_mem_singleton.2 counts⟩
      have hvalues : ∀ f ∈ fs ++ [field], Derives f.valueCode f.value :=
        List.forall_mem_append.2 ⟨values, List.forall_mem_singleton.2 hv⟩
      have hspells := Frame.Spells.dict _ hnames hvalues
      simp only [FieldCode.putInto, List.map_append, List.map_singleton, List.foldl_append,
        List.flatMap_append, List.flatMap_singleton] at hspells
      rw [List.cons_append, List.append_assoc]
      exact .cons hspells around

/-- A piece carries on the bytes before it. -/
theorem spells_of_take {before : List UInt8} (hf : Spell frames before) (hp : p.Spells code)
    (h : take place p frames = .ok progress) : progress.Spells (before ++ code) := by
  cases p with
  | value v => exact spells_of_deliver hf hp h
  | list =>
    cases h
    rw [show code = [108] from hp]
    exact .cons (.list [] (by simp)) hf
  | dict =>
    cases h
    rw [show code = [100] from hp]
    exact .cons (.dict [] (by simp) (by simp)) hf
  | finish =>
    rw [show code = [101] from hp]
    cases hf with
    | nil => cases h
    | cons inside around =>
      rw [List.append_assoc]
      cases inside with
      | list parts each =>
        rw [take, List.reverse_reverse] at h
        exact spells_of_deliver around (.list parts each) h
      | dict fs names values =>
        rw [take, FieldCode.dict_putInto_nil] at h
        exact spells_of_deliver around (.dict fs names values) h
      | name => cases h

/-- What is read, behind bytes that begin the open containers, is derived. -/
theorem derives_of_readFrom {before : List UInt8} (hf : Spell frames before)
    (h : readFrom place frames bs = .done v rest) :
    ∃ code, before ++ bs = code ++ rest ∧ Derives code v := by
  fun_induction readFrom place frames bs generalizing before with
  | case1 => cases h
  | case2 => cases h
  | case3 => cases h
  | case4 => cases h
  | case5 place frames b r p n hp v ht =>
    cases h
    refine ⟨before ++ b :: r.take n, ?_, spells_of_take hf (spells_of_piece hp) ht⟩
    rw [List.append_assoc, List.cons_append, List.take_append_drop]
  | case6 place frames b r p n hp frames' ht ih =>
    have hspell : Spell frames' (before ++ b :: r.take n) :=
      spells_of_take hf (spells_of_piece hp) ht
    obtain ⟨code, hcode, hv⟩ := ih hspell h
    refine ⟨code, ?_, hv⟩
    rw [← hcode, List.append_assoc, List.cons_append, List.take_append_drop]

/-! ## Whole values -/

theorem decode_eq_ok_iff : decode bs = .ok v ↔ Derives bs v := by
  refine ⟨fun h => ?_, fun h => h.readsAs.decode⟩
  unfold decode at h
  split at h
  · cases h
  · cases h
  · next hread =>
    cases h
    obtain ⟨code, hcode, hv⟩ := derives_of_readFrom .nil hread
    rw [List.nil_append, List.append_nil] at hcode
    rwa [hcode]
  · cases h

/-- Bytes are decoded to a value exactly if they are derived with it, to their last byte, and there
    is a fault exactly if no value is derived with them. No bytes are derived with two values. -/
theorem decode_iff_derives (bs : List UInt8) :
    (∀ v, decode bs = .ok v ↔ Derives bs v) ∧
    ((∃ fault, decode bs = .error fault) ↔ ∀ v, ¬ Derives bs v) ∧
    ∀ v w, Derives bs v → Derives bs w → v = w := by
  refine ⟨fun v => decode_eq_ok_iff, ?_, fun v w hv hw => ?_⟩
  · constructor
    · rintro ⟨fault, h⟩ v hv
      rw [decode_eq_ok_iff.2 hv] at h
      cases h
    · intro h
      cases hd : decode bs with
      | error fault => exact ⟨fault, rfl⟩
      | ok v => exact absurd (decode_eq_ok_iff.1 hd) (h v)
  · have h := decode_eq_ok_iff.2 hv
    rw [decode_eq_ok_iff.2 hw] at h
    exact (Except.ok.inj h).symm

end FormEdit.Bencode
