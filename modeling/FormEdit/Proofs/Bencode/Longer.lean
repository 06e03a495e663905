import FormEdit.Bencode.Decode
import Mathlib.Data.List.TakeWhile

set_option autoImplicit false

/-! # Reading longer bytes

Reading looks ahead for the end of a number and for the colon behind a length, and compares a
length with what has come. None of this makes it change its mind: once bytes are read as a value,
or refused, all longer bytes are read as that value, or refused for the same reason
(`readFrom_append`). Only what is incomplete is still open. So the beginnings of a value are all
incomplete (`read_eq_incomplete_of_append`), and reading is monotone (`read_monotone`). -/

namespace FormEdit.Bencode

variable {place n : Nat} {b mark : UInt8} {bs r xs a : List UInt8} {frames : List Frame}

/-! ## Pieces -/

theorem splitAtMark_append_cons (ha : mark ∉ a) (r : List UInt8) :
    splitAtMark mark (a ++ mark :: r) = some (a, r) := by
  have hp : ∀ x ∈ a, (x != mark) = true := by
    intro x hx
    have hne : x ≠ mark := fun he => ha (he ▸ hx)
    simpa using hne
  rw [splitAtMark, List.dropWhile_append_of_pos hp, List.takeWhile_append_of_pos hp]
  simp

theorem eq_of_splitAtMark (h : splitAtMark mark bs = some (a, r)) :
    bs = a ++ mark :: r ∧ mark ∉ a := by
  unfold splitAtMark at h
  split at h
  · cases h
  · next x s hd =>
    obtain ⟨rfl, rfl⟩ := Prod.mk.inj (Option.some.inj h)
    have hx : x = mark := by
      have hne : bs.dropWhile (· != mark) ≠ [] := by simp [hd]
      have hlast := List.head_dropWhile_not (· != mark) hne
      simpa [hd] using hlast
    constructor
    · rw [← hx, ← hd, hx, List.takeWhile_append_dropWhile]
    · intro hm
      have hp := List.mem_takeWhile_imp hm
      simp at hp

/-- Bytes behind the first mark do not move the split. -/
theorem splitAtMark_append (h : splitAtMark mark bs = some (a, r)) (xs : List UInt8) :
    splitAtMark mark (bs ++ xs) = some (a, r ++ xs) := by
  obtain ⟨rfl, ha⟩ := eq_of_splitAtMark h
  rw [List.append_assoc, List.cons_append, splitAtMark_append_cons ha]

/-- A piece takes no more bytes than there are. -/
theorem le_length_of_piece {p : Piece} (h : piece place b r = .ok (p, n)) : n ≤ r.length := by
  unfold piece at h
  split at h
  · split at h
    · cases h
    · next digits behind hs =>
      obtain ⟨rfl, -⟩ := eq_of_splitAtMark hs
      split at h
      · cases h
      · cases h
        rw [List.length_append, List.length_cons]
        omega
  split at h
  · split at h
    · cases h
    · next digits behind hs =>
      have hlen := congrArg List.length (eq_of_splitAtMark hs).1
      rw [List.length_append, List.length_cons, List.length_cons] at hlen
      split at h
      · cases h
      · split at h
        · cases h
        · cases h
          omega
  split_ifs at h <;> cases h <;> exact Nat.zero_le _

/-- A piece that is whole, or wrong, is so whatever stands behind it. -/
theorem piece_append (h : piece place b r ≠ .error .incomplete) (xs : List UInt8) :
    piece place b (r ++ xs) = piece place b r := by
  unfold piece at h ⊢
  split_ifs at h ⊢ with h1 h2
  · split at h
    · exact absurd rfl h
    · next hs => rw [splitAtMark_append hs]
  · split at h
    · exact absurd rfl h
    · next hs =>
      rw [← List.cons_append, splitAtMark_append hs]
      dsimp only
      split at h
      · rfl
      · -- The bytes that are counted have all come, so those behind them are not looked at.
        split at h
        · exact absurd rfl h
        · next hl =>
          rw [if_neg hl, if_neg (by rw [List.length_append]; omega),
            List.take_append_of_le_length (by omega)]
  all_goals rfl

/-! ## Values -/

/-- A reading with more bytes behind it. -/
def Reading.behind (xs : List UInt8) : Reading → Reading
  | .done v rest => .done v (rest ++ xs)
  | .incomplete => .incomplete
  | .malformed fault => .malformed fault

theorem readFrom_append (h : readFrom place frames bs ≠ .incomplete) (xs : List UInt8) :
    readFrom place frames (bs ++ xs) = (readFrom place frames bs).behind xs := by
  fun_induction readFrom place frames bs with
  | case1 => exact absurd rfl h
  | case2 => exact absurd rfl h
  | case3 place frames b r fault hp =>
    rw [List.cons_append, readFrom, piece_append (by simp [hp]), hp]
    rfl
  | case4 place frames b r p n hp fault ht =>
    rw [List.cons_append, readFrom, piece_append (by simp [hp]), hp]
    simp only [ht]
    rfl
  | case5 place frames b r p n hp v ht =>
    rw [List.cons_append, readFrom, piece_append (by simp [hp]), hp]
    simp only [ht]
    rw [List.drop_append_of_le_length (le_length_of_piece hp)]
    rfl
  | case6 place frames b r p n hp frames' ht ih =>
    rw [List.cons_append, readFrom, piece_append (by simp [hp]), hp]
    simp only [ht]
    rw [List.drop_append_of_le_length (le_length_of_piece hp), ih h]

theorem read_append_of_done {v : Value} (h : read bs = .done v r) (xs : List UInt8) :
    read (bs ++ xs) = .done v (r ++ xs) := by
  have hne : read bs ≠ .incomplete := by simp [h]
  rw [read, readFrom_append hne, ← read, h]
  rfl

theorem read_append_of_malformed {fault : Fault} (h : read bs = .malformed fault)
    (xs : List UInt8) : read (bs ++ xs) = .malformed fault := by
  have hne : read bs ≠ .incomplete := by simp [h]
  rw [read, readFrom_append hne, ← read, h]
  rfl

/-- Less than a whole value is incomplete, wherever it is cut. -/
theorem read_eq_incomplete_of_append {v : Value} (h : read (bs ++ xs) = .done v [])
    (hxs : xs ≠ []) : read bs = .incomplete := by
  cases hr : read bs with
  | incomplete => rfl
  | malformed fault => simp [read_append_of_malformed hr] at h
  | done w rest =>
    rw [read_append_of_done hr] at h
    have hnil := (Reading.done.inj h).2
    exact absurd (List.append_eq_nil_iff.1 hnil).2 hxs

/-- What is left behind a value stands at the end of the bytes. -/
theorem suffix_of_readFrom {v : Value} {rest : List UInt8}
    (h : readFrom place frames bs = .done v rest) : rest <:+ bs := by
  fun_induction readFrom place frames bs with
  | case1 => simp at h
  | case2 => simp at h
  | case3 => simp at h
  | case4 => simp at h
  | case5 place frames b r p n hp w ht =>
    cases h
    exact (List.drop_suffix n r).trans (List.suffix_cons b r)
  | case6 place frames b r p n hp frames' ht ih =>
    exact ((ih h).trans (List.drop_suffix n r)).trans (List.suffix_cons b r)

/-- A value takes at least one byte and at most all of them. -/
theorem exists_drop_of_read {v : Value} {rest : List UInt8} (h : read bs = .done v rest) :
    ∃ n, 0 < n ∧ n ≤ bs.length ∧ rest = bs.drop n := by
  obtain ⟨code, rfl⟩ := suffix_of_readFrom h
  have hlen := length_lt_of_read h
  rw [List.length_append] at hlen
  refine ⟨code.length, by omega, ?_, List.drop_left.symm⟩
  rw [List.length_append]
  omega

/-- Reading is monotone. Bytes that hold a value at their front hold the same one, in as many bytes,
    whatever comes behind them, and what is refused stays refused for the same reason. What is less
    than one whole value is incomplete: it is neither another value nor refused. -/
theorem read_monotone (bs xs : List UInt8) :
    (∀ v rest, read bs = .done v rest →
      ∃ n, 0 < n ∧ n ≤ bs.length ∧ rest = bs.drop n ∧
        read (bs ++ xs) = .done v ((bs ++ xs).drop n)) ∧
    (∀ fault, read bs = .malformed fault → read (bs ++ xs) = .malformed fault) ∧
    ∀ v p, read bs = .done v [] → p <+: bs → p ≠ bs → read p = .incomplete := by
  refine ⟨fun v rest h => ?_, fun fault h => read_append_of_malformed h xs, fun v p h hp hne => ?_⟩
  · obtain ⟨n, hpos, hle, rfl⟩ := exists_drop_of_read h
    refine ⟨n, hpos, hle, rfl, ?_⟩
    rw [List.drop_append_of_le_length hle]
    exact read_append_of_done h xs
  · obtain ⟨s, rfl⟩ := hp
    refine read_eq_incomplete_of_append h fun hs => hne ?_
    rw [hs, List.append_nil]

/-- A list of one number, the same with a byte behind it, and the same without its end; and an end
    that ends nothing, with a byte behind it. -/
theorem read_monotone_list_and_end :
    read [108, 105, 49, 101, 101] = .done (.list [.int 1]) [] ∧
    (∃ n, 0 < n ∧ n ≤ 5 ∧ read [108, 105, 49, 101, 101, 120] =
      .done (.list [.int 1]) (([108, 105, 49, 101, 101, 120] : List UInt8).drop n)) ∧
    read [108, 105, 49, 101] = .incomplete ∧
    read [101] = .malformed (.strayEnd 0) ∧ read [101, 105] = .malformed (.strayEnd 0) := by
  have hdone : read [108, 105, 49, 101, 101] = .done (.list [.int 1]) [] := by cbv
  have hend : read [101] = .malformed (.strayEnd 0) := by cbv
  obtain ⟨hlonger, -, hless⟩ := read_monotone [108, 105, 49, 101, 101] [120]
  obtain ⟨n, hpos, hle, -, hread⟩ := hlonger _ _ hdone
  exact ⟨hdone, ⟨n, hpos, hle, hread⟩, hless _ [108, 105, 49, 101] hdone (by decide) (by decide),
    hend, (read_monotone [101] [105]).2.1 _ hend⟩

end FormEdit.Bencode
