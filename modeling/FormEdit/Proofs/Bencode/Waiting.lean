import FormEdit.Proofs.Bencode.Grammar
import FormEdit.Proofs.Bencode.Messages
import FormEdit.Proofs.Number.Begun

set_option autoImplicit false

/-! # Bytes that wait for more

Reading stops for want of bytes inside of some open containers, in front of a piece that has begun
(`stop`, `Begun`). What more bytes can do there is seen from these two alone (`canEndIn`): the
containers can be closed one by one unless one of them stands where a name is due, and the piece
can be completed unless its digits begin no numeral, or it is a number where a name is due. Bytes
that are none of this wait as well, and in vain: a stream reports neither a fault nor a value for
them (`Stream.feedAll_completable_iff`). -/

namespace FormEdit.Bencode

variable {place n : Nat} {b mark : UInt8} {r bs rest more digits : List UInt8}
  {frame : Frame} {frames : List Frame} {p : Piece} {v : Value} {progress : Progress}

/-! ## Where reading stops -/

/-- The open containers and the bytes at which reading stops, going on inside of containers. -/
def stopFrom (place : Nat) (frames : List Frame) : List UInt8 → List Frame × List UInt8
  | [] => (frames, [])
  | b :: r =>
    match piece place b r with
    | .error _ => (frames, b :: r)
    | .ok (p, n) =>
      match take place p frames with
      | .ok (.inside frames) => stopFrom (place + n + 1) frames (r.drop n)
      | _ => (frames, b :: r)
  termination_by bs => bs.length
  decreasing_by simp only [List.length_drop, List.length_cons]; omega

/-- The open containers and the bytes at which reading some bytes stops. -/
def stop (bs : List UInt8) : List Frame × List UInt8 := stopFrom 0 [] bs

/-- What has come of a piece that is not whole: nothing, a number without its end, a length without
    its end, or too few bytes behind a length. -/
inductive Begun : List UInt8 → Prop
  | nothing : Begun []
  | number {digits : List UInt8} (clear : (101 : UInt8) ∉ digits) : Begun (105 :: digits)
  | length {b : UInt8} {s : List UInt8} (hdigit : isDigit b = true) (clear : (58 : UInt8) ∉ s) :
    Begun (b :: s)
  | string {b : UInt8} {s behind : List UInt8} {m : Nat} (hdigit : isDigit b = true)
    (clear : (58 : UInt8) ∉ s) (length : Numeral.ofBytes (b :: s) = .ok (m : Int))
    (few : behind.length < m) : Begun (b :: (s ++ 58 :: behind))

theorem not_mem_of_splitAtMark (h : splitAtMark mark bs = none) : mark ∉ bs := by
  intro hmem
  obtain ⟨a, r, hbs, ha⟩ := List.eq_append_cons_of_mem hmem
  rw [hbs, splitAtMark_append_cons ha] at h
  cases h

theorem begun_of_piece (h : piece place b r = .error .incomplete) : Begun (b :: r) := by
  unfold piece at h
  split_ifs at h with hint hdigit hlist hdict hfinish
  · subst hint
    split at h
    · next hs => exact .number (not_mem_of_splitAtMark hs)
    · split at h <;> cases h
  · split at h
    · next hs =>
      have clear := not_mem_of_splitAtMark hs
      exact .length hdigit fun hmem => clear (List.mem_cons_of_mem b hmem)
    · next s behind hs =>
      obtain ⟨heq, clear⟩ := eq_of_splitAtMark hs
      split at h
      · cases h
      · next m hm =>
        split at h
        · next hfew =>
          -- The length is not empty, as its first byte is a digit and no colon.
          cases s with
          | nil =>
            obtain ⟨rfl, -⟩ := List.cons.inj heq
            cases hdigit
          | cons d s =>
            obtain ⟨rfl, rfl⟩ := List.cons.inj heq
            have hnonneg := Numeral.nonneg_of_ofBytes_cons (isDigit_iff.1 hdigit) hm
            refine .string hdigit (fun hmem => clear (List.mem_cons_of_mem b hmem)) ?_ hfew
            rw [hm, Int.toNat_of_nonneg hnonneg]
        · cases h
  · cases h

/-- Reading that stops for want of bytes goes on from where it stops when more have come. -/
theorem exists_readFrom_stop (h : readFrom place frames bs = .incomplete) :
    Begun (stopFrom place frames bs).2 ∧ ∃ place', ∀ more,
      readFrom place frames (bs ++ more) =
        readFrom place' (stopFrom place frames bs).1 ((stopFrom place frames bs).2 ++ more) := by
  fun_induction readFrom place frames bs with
  | case1 place frames =>
    rw [stopFrom]
    exact ⟨.nothing, place, fun _ => rfl⟩
  | case2 place frames b r hp =>
    rw [stopFrom, hp]
    exact ⟨begun_of_piece hp, place, fun _ => rfl⟩
  | case3 => cases h
  | case4 => cases h
  | case5 => cases h
  | case6 place frames b r p n hp frames' ht ih =>
    obtain ⟨hbegun, place', hread⟩ := ih h
    have hstop : stopFrom place frames (b :: r) = stopFrom (place + n + 1) frames' (r.drop n) := by
      rw [stopFrom, hp]
      simp only [ht]
    rw [hstop]
    refine ⟨hbegun, place', fun more => ?_⟩
    have hpiece : piece place b (r ++ more) = .ok (p, n) := by
      rw [piece_append (by simp [hp]), hp]
    rw [List.cons_append, readFrom_of_piece hpiece, ht, resume,
      List.drop_append_of_le_length (le_length_of_piece hp)]
    exact hread more

/-! ## Containers that can be closed -/

/-- Whether a container can be given whatever value. Where a name is due, strings only. -/
def Frame.takesAny : Frame → Bool
  | .dict _ none => false
  | _ => true

theorem readFrom_finish (place : Nat) (frames : List Frame) (rest : List UInt8) :
    readFrom place frames (101 :: rest) = resume (place + 1) rest (take place .finish frames) := by
  have hpiece : piece place 101 rest = .ok (.finish, 0) := rfl
  rw [readFrom_of_piece hpiece, List.drop_zero, Nat.add_zero]

/-- Containers that take whatever value are closed one by one, from the innermost on. -/
theorem exists_closing (h : ∀ frame ∈ frames, frame.takesAny = true) (v : Value) :
    ∃ more w, ∀ place, resume place more (deliver v frames) = .done w [] := by
  induction frames generalizing v with
  | nil => exact ⟨[], v, fun _ => rfl⟩
  | cons frame frames ih =>
    have hframes : ∀ frame ∈ frames, frame.takesAny = true := fun f hf =>
      h f (List.mem_cons_of_mem frame hf)
    cases frame with
    | list items =>
      obtain ⟨more, w, hmore⟩ := ih hframes (.list (v :: items).reverse)
      refine ⟨101 :: more, w, fun place => ?_⟩
      rw [deliver, resume, readFrom_finish, take, hmore]
    | dict entries key =>
      cases key with
      | none => cases h _ List.mem_cons_self
      | some k =>
        obtain ⟨more, w, hmore⟩ := ih hframes (.dict (Value.insert entries (.text k) v))
        refine ⟨101 :: more, w, fun place => ?_⟩
        rw [deliver, resume, readFrom_finish, take, hmore]

/-- The empty string. -/
theorem isString_nil : IsString [48, 58] [] :=
  ⟨48, [], rfl, by decide, List.not_mem_nil, by decide⟩

theorem exists_eq_dict (h : ¬ frame.takesAny = true) : ∃ entries, frame = .dict entries none := by
  cases frame with
  | list items => exact absurd rfl h
  | dict entries key =>
    cases key with
    | none => exact ⟨entries, rfl⟩
    | some k => exact absurd rfl h

/-- Strings are taken everywhere. Behind one that is a name a value is due. -/
theorem exists_closing_string (h : ∀ frame ∈ frames.tail, frame.takesAny = true)
    (bs : List UInt8) :
    ∃ more w, ∀ place, resume place more (deliver (ofBytes bs) frames) = .done w [] := by
  cases frames with
  | nil => exact exists_closing (List.forall_mem_nil _) _
  | cons frame frames =>
    by_cases hframe : frame.takesAny = true
    · exact exists_closing (List.forall_mem_cons.2 ⟨hframe, h⟩) _
    · obtain ⟨entries, rfl⟩ := exists_eq_dict hframe
      have hnamed : ∀ f ∈ Frame.dict entries (some (nameText bs)) :: frames, f.takesAny = true :=
        List.forall_mem_cons.2 ⟨rfl, h⟩
      obtain ⟨more, w, hmore⟩ := exists_closing hnamed (ofBytes [])
      refine ⟨[48, 58] ++ more, w, fun place => ?_⟩
      rw [deliver_ofBytes, resume, isString_nil.readsAs, hmore]

/-! ## Containers that cannot be closed -/

/-- A value stays in the innermost container. -/
theorem exists_frame_of_deliver (h : deliver v (frame :: frames) = .ok progress) :
    ∃ frame', progress = .inside (frame' :: frames) := by
  cases frame with
  | list items =>
    cases h
    exact ⟨_, rfl⟩
  | dict entries key =>
    cases key with
    | some k =>
      cases h
      exact ⟨_, rfl⟩
    | none =>
      cases v with
      | text s =>
        cases h
        exact ⟨_, rfl⟩
      | bytes bs =>
        cases h
        exact ⟨_, rfl⟩
      | _ => cases h

/-- A value that is no string is taken where no name is due. -/
theorem takesAny_of_deliver (hv : ∀ entries fs, ∃ fault,
      deliver v (.dict entries none :: fs) = .error fault)
    (h : deliver v (frame :: frames) = .ok progress) : frame.takesAny = true := by
  by_contra hframe
  obtain ⟨entries, rfl⟩ := exists_eq_dict hframe
  obtain ⟨fault, hfault⟩ := hv entries frames
  rw [hfault] at h
  cases h

/-- What a value leaves open besides the innermost container was open before, and takes whatever
    value if the value was a container itself. -/
theorem tail_takesAny_of_deliver (h : deliver v frames = .ok progress)
    (hp : ∀ frames', progress = .inside frames' → ∀ f ∈ frames'.tail, f.takesAny = true) :
    ∀ f ∈ frames.tail, f.takesAny = true := by
  cases frames with
  | nil => exact List.forall_mem_nil _
  | cons frame frames =>
    obtain ⟨frame', rfl⟩ := exists_frame_of_deliver h
    exact hp (frame' :: frames) rfl

theorem all_takesAny_of_deliver (hv : ∀ entries fs, ∃ fault,
      deliver v (.dict entries none :: fs) = .error fault) (h : deliver v frames = .ok progress)
    (hp : ∀ frames', progress = .inside frames' → ∀ f ∈ frames'.tail, f.takesAny = true) :
    ∀ f ∈ frames, f.takesAny = true := by
  have htail := tail_takesAny_of_deliver h hp
  cases frames with
  | nil => exact htail
  | cons frame frames => exact List.forall_mem_cons.2 ⟨takesAny_of_deliver hv h, htail⟩

/-- Taking in a piece closes no container but the innermost one. -/
theorem tail_takesAny_of_take (h : take place p frames = .ok progress)
    (hp : ∀ frames', progress = .inside frames' → ∀ f ∈ frames'.tail, f.takesAny = true) :
    ∀ f ∈ frames.tail, f.takesAny = true := by
  cases p with
  | value v => exact tail_takesAny_of_deliver h hp
  | list =>
    cases h
    exact fun f hf => hp _ rfl f (List.mem_of_mem_tail hf)
  | dict =>
    cases h
    exact fun f hf => hp _ rfl f (List.mem_of_mem_tail hf)
  | finish =>
    cases frames with
    | nil => cases h
    | cons frame frames =>
      cases frame with
      | list items => exact all_takesAny_of_deliver (fun _ _ => ⟨_, rfl⟩) h hp
      | dict entries key =>
        cases key with
        | none => exact all_takesAny_of_deliver (fun _ _ => ⟨_, rfl⟩) h hp
        | some k => cases h

/-- Where a value has been read, the containers around the innermost one take whatever value. -/
theorem tail_takesAny_of_readFrom (h : readFrom place frames bs = .done v rest) :
    ∀ f ∈ frames.tail, f.takesAny = true := by
  fun_induction readFrom place frames bs with
  | case1 => cases h
  | case2 => cases h
  | case3 => cases h
  | case4 => cases h
  | case5 place frames b r p n hp v ht =>
    refine tail_takesAny_of_take ht ?_
    rintro _ ⟨⟩
  | case6 place frames b r p n hp frames' ht ih =>
    refine tail_takesAny_of_take ht ?_
    rintro _ ⟨⟩
    exact ih h

/-! ## Pieces that can be completed -/

/-- Whether more bytes can complete what is read where reading stops. A number wants all containers
    to take whatever value, and any other piece those around the innermost one. -/
def canEndIn (frames : List Frame) : List UInt8 → Bool
  | [] => frames.tail.all Frame.takesAny
  | b :: r =>
    if b = 105 then frames.all Frame.takesAny && Numeral.begins r
    else frames.tail.all Frame.takesAny && (r.contains 58 || Numeral.begins (b :: r))

theorem canEndIn_nil_iff : canEndIn frames [] = true ↔ ∀ f ∈ frames.tail, f.takesAny = true :=
  List.all_eq_true

theorem canEndIn_number_iff : canEndIn frames (105 :: r) = true ↔
    (∀ f ∈ frames, f.takesAny = true) ∧ Numeral.begins r = true := by
  rw [canEndIn, if_pos rfl, Bool.and_eq_true, List.all_eq_true]

theorem canEndIn_digit_iff (hdigit : isDigit b = true) : canEndIn frames (b :: r) = true ↔
    (∀ f ∈ frames.tail, f.takesAny = true) ∧
      ((58 : UInt8) ∈ r ∨ Numeral.begins (b :: r) = true) := by
  rw [canEndIn, if_neg (ne_of_isDigit hdigit (by decide)), Bool.and_eq_true, List.all_eq_true,
    Bool.or_eq_true, List.contains_iff_mem]

/-- A piece with bytes behind it that complete it delivers a value, and the containers are closed
    behind it. -/
theorem ReadsAs.exists_done (hread : ReadsAs (rest ++ more) v)
    (hclose : ∃ close w, ∀ place, resume place close (deliver v frames) = .done w []) :
    ∃ more w, ∀ place, readFrom place frames (rest ++ more) = .done w [] := by
  obtain ⟨close, w, hdone⟩ := hclose
  refine ⟨more ++ close, w, fun place => ?_⟩
  rw [← List.append_assoc, hread, hdone]

/-- What can end is ended by the rest of its piece and the ends of the open containers. -/
theorem exists_done_of_canEndIn (hbegun : Begun rest) (h : canEndIn frames rest = true) :
    ∃ more w, ∀ place, readFrom place frames (rest ++ more) = .done w [] := by
  cases hbegun with
  | nothing =>
    exact isString_nil.readsAs.exists_done (exists_closing_string (canEndIn_nil_iff.1 h) [])
  | @number digits clear =>
    obtain ⟨hframes, hbegins⟩ := canEndIn_number_iff.1 h
    obtain ⟨more, m, hmore, hm⟩ := Numeral.exists_of_begins hbegins
    have hclear : (101 : UInt8) ∉ digits ++ more := by
      rcases hmore with rfl | rfl <;> simp [clear]
    have hread : ReadsAs (105 :: digits ++ (more ++ [101])) (.int m) := by
      rw [List.cons_append, ← List.append_assoc]
      exact readsAs_numeral hclear hm
    exact hread.exists_done (exists_closing hframes _)
  | @length b s hdigit clear =>
    obtain ⟨hframes, hcolon | hbegins⟩ := (canEndIn_digit_iff hdigit).1 h
    · exact absurd hcolon clear
    obtain ⟨more, m, hmore, hm⟩ := Numeral.exists_of_begins hbegins
    have hclear : (58 : UInt8) ∉ s ++ more := by
      rcases hmore with rfl | rfl <;> simp [clear]
    have hnonneg := Numeral.nonneg_of_ofBytes_cons (isDigit_iff.1 hdigit) hm
    let bs : List UInt8 := List.replicate m.toNat 0
    have hlength : Numeral.ofBytes (b :: (s ++ more)) = .ok (bs.length : Int) := by
      rw [List.length_replicate, Int.toNat_of_nonneg hnonneg]
      exact hm
    have hstring : IsString (b :: s ++ (more ++ 58 :: bs)) bs :=
      ⟨b, s ++ more, by simp, hdigit, hclear, hlength⟩
    exact hstring.readsAs.exists_done (exists_closing_string hframes bs)
  | @string b s behind m hdigit clear length few =>
    have hframes := ((canEndIn_digit_iff hdigit).1 h).1
    let bs : List UInt8 := behind ++ List.replicate (m - behind.length) 0
    have hcount : bs.length = m := by
      rw [List.length_append, List.length_replicate]
      omega
    have hstring : IsString (b :: (s ++ 58 :: behind) ++ List.replicate (m - behind.length) 0) bs :=
      ⟨b, s, by simp [bs], hdigit, clear, by rw [hcount, length]⟩
    exact hstring.readsAs.exists_done (exists_closing_string hframes bs)

/-! ## Pieces that cannot be completed -/

theorem exists_piece_of_readFrom (h : readFrom place frames (b :: r) = .done v rest) :
    ∃ p n, piece place b r = .ok (p, n) ∧
      resume (place + n + 1) (r.drop n) (take place p frames) = .done v rest := by
  cases hp : piece place b r with
  | error stop =>
    rw [readFrom, hp] at h
    cases stop <;> cases h
  | ok piece =>
    obtain ⟨p, n⟩ := piece
    exact ⟨p, n, rfl, readFrom_of_piece hp ▸ h⟩

/-- A mark behind bytes that hold none is split off with them. -/
theorem exists_of_splitAtMark_append (clear : mark ∉ bs)
    (h : splitAtMark mark (bs ++ more) = some (digits, r)) : ∃ t, digits = bs ++ t := by
  obtain ⟨heq, hclear⟩ := eq_of_splitAtMark h
  rcases List.append_eq_append_iff.1 heq with ⟨t, ht, -⟩ | ⟨t, rfl, ht⟩
  · exact ⟨t, ht⟩
  · cases t with
    | nil => exact ⟨[], by simp⟩
    | cons x t =>
      obtain ⟨rfl, -⟩ := List.cons.inj ht
      exact absurd (by simp) clear

theorem number_of_piece (clear : (101 : UInt8) ∉ digits)
    (h : piece place 105 (digits ++ more) = .ok (p, n)) :
    Numeral.begins digits = true ∧ ∃ m, p = .value (.int m) := by
  rw [piece, if_pos rfl] at h
  split at h
  · cases h
  · next hs =>
    obtain ⟨t, rfl⟩ := exists_of_splitAtMark_append clear hs
    split at h
    · cases h
    · next m hm =>
      cases h
      exact ⟨Numeral.begins_of_append hm, m, rfl⟩

theorem begins_of_piece {s : List UInt8} (hdigit : isDigit b = true) (clear : (58 : UInt8) ∉ s)
    (h : piece place b (s ++ more) = .ok (p, n)) : Numeral.begins (b :: s) = true := by
  have hclear : (58 : UInt8) ∉ b :: s := by
    rw [List.mem_cons, not_or]
    exact ⟨(ne_of_isDigit hdigit (by decide)).symm, clear⟩
  rw [piece, if_neg (ne_of_isDigit hdigit (by decide)), if_pos hdigit, ← List.cons_append] at h
  split at h
  · cases h
  · next hs =>
    obtain ⟨t, rfl⟩ := exists_of_splitAtMark_append hclear hs
    split at h
    · cases h
    · next m hm => exact Numeral.begins_of_append hm

/-- A number that has been taken in stands where no name was due. -/
theorem all_takesAny_of_number {m : Int}
    (h : resume place bs (take place (.value (.int m)) frames) = .done v rest) :
    ∀ f ∈ frames, f.takesAny = true := by
  rw [take] at h
  cases hd : deliver (.int m) frames with
  | error fault =>
    rw [hd] at h
    cases h
  | ok progress =>
    refine all_takesAny_of_deliver (fun _ _ => ⟨_, rfl⟩) hd ?_
    rintro frames' rfl
    rw [hd] at h
    exact tail_takesAny_of_readFrom h

/-- What more bytes have ended could end. -/
theorem canEndIn_of_readFrom (hbegun : Begun rest)
    (h : readFrom place frames (rest ++ more) = .done v []) : canEndIn frames rest = true := by
  have htail := tail_takesAny_of_readFrom h
  cases hbegun with
  | nothing => exact canEndIn_nil_iff.2 htail
  | number clear =>
    obtain ⟨p, n, hp, hdone⟩ := exists_piece_of_readFrom h
    obtain ⟨hbegins, m, rfl⟩ := number_of_piece clear hp
    exact canEndIn_number_iff.2 ⟨all_takesAny_of_number hdone, hbegins⟩
  | length hdigit clear =>
    obtain ⟨p, n, hp, -⟩ := exists_piece_of_readFrom h
    exact (canEndIn_digit_iff hdigit).2 ⟨htail, .inr (begins_of_piece hdigit clear hp)⟩
  | string hdigit clear length few =>
    exact (canEndIn_digit_iff hdigit).2 ⟨htail, .inl (by simp)⟩

/-! ## Streams -/

theorem decode_eq_ok_iff_read : decode bs = .ok v ↔ read bs = .done v [] := by
  refine ⟨read_of_decode, fun h => ?_⟩
  rw [decode, h]

/-- Incomplete bytes are the beginning of a value exactly if what they stop at can end. -/
theorem completable_iff (h : read bs = .incomplete) :
    (∃ more v, decode (bs ++ more) = .ok v) ↔ canEndIn (stop bs).1 (stop bs).2 = true := by
  obtain ⟨hbegun, place, hread⟩ := exists_readFrom_stop h
  constructor
  · rintro ⟨more, v, hv⟩
    rw [decode_eq_ok_iff_read, read, hread] at hv
    exact canEndIn_of_readFrom hbegun hv
  · intro hend
    obtain ⟨more, v, hdone⟩ := exists_done_of_canEndIn hbegun hend
    refine ⟨more, v, ?_⟩
    rw [decode_eq_ok_iff_read, read, hread]
    exact hdone place

/-- Where no value can be completed, none is read, whatever comes. -/
theorem wholes_append_of_not_completable (hread : read bs = .incomplete)
    (h : ¬ ∃ more v, decode (bs ++ more) = .ok v) (xs : List UInt8) :
    (wholes (bs ++ xs)).1 = [] := by
  have hne : ∀ v rest, read (bs ++ xs) ≠ .done v rest := by
    intro v rest hdone
    obtain ⟨code, hcode, hv⟩ := derives_of_readFrom .nil hdone
    rw [List.nil_append] at hcode
    rcases List.append_eq_append_iff.1 hcode with ⟨more, rfl, -⟩ | ⟨left, rfl, -⟩
    · exact h ⟨more, v, decode_eq_ok_iff.2 hv⟩
    · -- The value would stand in front of what waits.
      rw [hv.readsAs.read left] at hread
      cases hread
  rw [wholes_of_not_done hne]

namespace Stream

/-- Whether more bytes can complete what waits in a stream. -/
def canEnd (s : Stream) : Bool := canEndIn (stop s.buffer).1 (stop s.buffer).2

/-- Behind a fault a stream keeps bytes that are malformed. -/
theorem read_of_fault {s : Stream} {cs : List (List UInt8)} {f : Fault}
    (h : (s.feedAll cs).fault = some f) :
    read (s.feedAll cs).stream.buffer = .malformed f := by
  induction cs generalizing s with
  | nil => cases h
  | cons c cs ih =>
    have hfeed := s.feed_eq c
    cases hf : faultIn (s.buffer ++ c) with
    | some g =>
      rw [hf] at hfeed
      rw [feedAll_of_error hfeed] at h ⊢
      cases h
      exact faultIn_eq_some_iff.1 hf
    | none =>
      rw [hf] at hfeed
      rw [feedAll_of_ok hfeed] at h ⊢
      exact ih h

theorem read_of_no_fault {cs : List (List UInt8)} (h : (empty.feedAll cs).fault = none) :
    read (empty.feedAll cs).stream.buffer = .incomplete := by
  obtain ⟨hfault, -, hstream⟩ := feedAll_spec empty read_nil cs
  rw [(hstream h).2]
  rw [h] at hfault
  exact read_wholes_of_faultIn hfault.symm

/-- What waits in a stream is the beginning of a value exactly if no fault has been reported and
    what has begun can end. So a fault is reported only where no bytes can help. Where none is
    reported for what cannot end, no message comes any more, whatever chunks come. -/
theorem feedAll_completable_iff (cs : List (List UInt8)) :
    ((∃ more v, more ≠ [] ∧ decode ((empty.feedAll cs).stream.buffer ++ more) = .ok v) ↔
      (empty.feedAll cs).fault = none ∧ (empty.feedAll cs).stream.canEnd = true) ∧
    ((empty.feedAll cs).fault = none → (empty.feedAll cs).stream.canEnd = false →
      ∀ ds, (empty.feedAll (cs ++ ds)).messages = (empty.feedAll cs).messages) := by
  constructor
  · constructor
    · rintro ⟨more, v, -, hv⟩
      have hdone := decode_eq_ok_iff_read.1 hv
      cases hf : (empty.feedAll cs).fault with
      | some f =>
        rw [read_append_of_malformed (read_of_fault hf)] at hdone
        cases hdone
      | none => exact ⟨rfl, (completable_iff (read_of_no_fault hf)).1 ⟨more, v, hv⟩⟩
    · rintro ⟨hf, hend⟩
      have hread := read_of_no_fault hf
      obtain ⟨more, v, hv⟩ := (completable_iff hread).2 hend
      refine ⟨more, v, ?_, hv⟩
      rintro rfl
      rw [List.append_nil, decode_eq_ok_iff_read, hread] at hv
      cases hv
  · intro hf hend ds
    have hread := read_of_no_fault hf
    have hnever : ¬ ∃ more v, decode ((empty.feedAll cs).stream.buffer ++ more) = .ok v := by
      rw [completable_iff hread, ← canEnd, hend]
      exact Bool.false_ne_true
    obtain ⟨-, hmessages, -⟩ := feedAll_spec (empty.feedAll cs).stream hread ds
    rw [wholes_append_of_not_completable hread hnever] at hmessages
    rw [messages_append hf, (List.append_eq_nil_iff.1 hmessages).1, List.append_nil]

/-- Incomplete bytes that cannot end are kept without a fault, and no bytes make a value of them. -/
theorem waits_of_not_canEndIn (hread : read bs = .incomplete)
    (hend : canEndIn (stop bs).1 (stop bs).2 = false) :
    (empty.feedAll [bs]).fault = none ∧ (empty.feedAll [bs]).stream = ⟨bs⟩ ∧
      ∀ more v, decode (bs ++ more) ≠ .ok v := by
  have hwholes : wholes bs = ([], bs) := wholes_of_not_done fun v rest => by simp [hread]
  have hfault : faultIn bs = none := by simp [faultIn, hwholes, hread, Reading.fault?]
  have hfeed : empty.feed bs = (.ok [], ⟨bs⟩) := by simp [feed_eq, empty, hfault, hwholes]
  rw [feedAll_of_ok hfeed]
  refine ⟨rfl, rfl, fun more v hv => ?_⟩
  rw [(completable_iff hread).1 ⟨more, v, hv⟩] at hend
  cases hend

/-- A letter in a number waits for the end of the number, and so does a number in the place of a
    name. -/
theorem feedAll_waits_in_vain :
    ((empty.feedAll [ascii "ix"]).fault = none ∧
      (empty.feedAll [ascii "ix"]).stream = ⟨ascii "ix"⟩ ∧
      ∀ more v, decode (ascii "ix" ++ more) ≠ .ok v) ∧
    (empty.feedAll [ascii "di1"]).fault = none ∧
      (empty.feedAll [ascii "di1"]).stream = ⟨ascii "di1"⟩ ∧
      ∀ more v, decode (ascii "di1" ++ more) ≠ .ok v :=
  ⟨waits_of_not_canEndIn (by cbv) (by cbv), waits_of_not_canEndIn (by cbv) (by cbv)⟩

end Stream

end FormEdit.Bencode
