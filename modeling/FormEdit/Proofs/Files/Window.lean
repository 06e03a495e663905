import FormEdit.Proofs.Files.Numbered

set_option autoImplicit false

/-! # Windows of a file

A window of a file is the lines between two places, each with its number. Reading shows the window
that begins at the offset and has as many lines as the limit says, and windows that meet make up
one. Only a limit that reaches back over the beginning of the file is taken from the end of the
lines instead, and shows lines where the window has none (`Files.read_windows`). -/

namespace FormEdit.Files

/-- The lines at places from `first` on that are before `last`, each with its number in front. -/
def rowsBetween (lines : List (List Char)) (first last : Int) : List (List Char) :=
  (lines.zipIdx.filter fun line => first ≤ line.2 ∧ line.2 < last).map fun line =>
    numberText (line.2 + 1) ++ '→' :: line.1

/-- The place that a reading of `n` lines goes up to. One that is below zero counts from the end of
    the lines. -/
def endPlace (n : Nat) (last : Int) : Int := if last < 0 then last + n else last

variable {lines : List (List Char)} {t : List Char}

/-! ## Rows and places -/

theorem numberLines_eq_map (n : Nat) (lines : List (List Char)) :
    numberLines n lines =
      (lines.zipIdx n).map fun line => numberText (line.2 + 1) ++ '→' :: line.1 := by
  induction lines generalizing n with
  | nil => rfl
  | cons line lines ih => rw [numberLines, ih, List.zipIdx_cons, List.map_cons]

theorem length_numberLines (n : Nat) (lines : List (List Char)) :
    (numberLines n lines).length = lines.length := by
  rw [numberLines_eq_map, List.length_map, List.length_zipIdx]

theorem numberLines_append (n : Nat) (lines more : List (List Char)) :
    numberLines n (lines ++ more) =
      numberLines n lines ++ numberLines (n + lines.length) more := by
  simp only [numberLines_eq_map, List.zipIdx_append, List.map_append]

theorem zipIdx_take {α : Type} (xs : List α) (k b : Nat) :
    (xs.take b).zipIdx k = (xs.zipIdx k).filter fun x => x.2 < k + b := by
  induction xs generalizing k b with
  | nil => simp
  | cons x xs ih =>
    cases b with
    | zero =>
      refine (List.filter_eq_nil_iff.2 fun y hy => ?_).symm
      have := List.le_snd_of_mem_zipIdx hy
      simpa using this
    | succ b =>
      have hx : k < k + (b + 1) := by omega
      simp only [List.take_succ_cons, List.zipIdx_cons, List.filter_cons, hx, decide_true, if_true,
        ih, Nat.add_right_comm k 1 b, Nat.add_assoc]

theorem zipIdx_drop {α : Type} (xs : List α) (k a : Nat) :
    (xs.drop a).zipIdx (k + a) = (xs.zipIdx k).filter fun x => k + a ≤ x.2 := by
  induction xs generalizing k a with
  | nil => simp
  | cons x xs ih =>
    cases a with
    | zero =>
      refine (List.filter_eq_self.2 fun y hy => ?_).symm
      have := List.le_snd_of_mem_zipIdx hy
      simpa using this
    | succ a =>
      have hx : ¬ k + (a + 1) ≤ k := by omega
      have hk : k + (a + 1) = k + 1 + a := by omega
      simp only [List.drop_succ_cons, List.zipIdx_cons, List.filter_cons, hx, decide_false,
        Bool.false_eq_true, if_false]
      rw [hk, ih]

/-- The rows between two places are the lines there, numbered from the first place on. -/
theorem rowsBetween_eq (lines : List (List Char)) (first : Nat) (last : Int) :
    rowsBetween lines first last =
      numberLines first ((lines.take last.toNat).drop first) := by
  have hdrop := zipIdx_drop (lines.take last.toNat) 0 first
  rw [zipIdx_take, List.filter_filter, Nat.zero_add] at hdrop
  rw [numberLines_eq_map, hdrop, rowsBetween]
  congr 1
  refine List.filter_congr fun line _ => ?_
  rw [decide_eq_decide.2 (show (first : Int) ≤ line.2 ∧ (line.2 : Int) < last ↔
    first ≤ line.2 ∧ line.2 < 0 + last.toNat by omega), Bool.decide_and]

/-- A slice leaves out the first items, and those that are not before the place it goes up to. -/
theorem slice_eq {α : Type} (xs : List α) (first : Nat) (last : Int) :
    slice xs first last = (xs.take (endPlace xs.length last).toNat).drop first := by
  have hfirst : ¬ (first : Int) < 0 := by omega
  rw [slice, endPlace]
  simp only [if_neg hfirst, Int.toNat_natCast]

/-- What is shown of a text are the rows of a window. -/
theorem rowsOf_eq (t : List Char) (skipped : Nat) (shown : Int) :
    rowsOf t skipped shown = rowsBetween (splitLines t) skipped
      (endPlace (splitLines t).length (skipped + shown)) := by
  rw [rowsOf, slice_eq, rowsBetween_eq]

theorem rowsBetween_eq_nil (lines : List (List Char)) {first last : Int} (h : last ≤ first) :
    rowsBetween lines first last = [] := by
  rw [rowsBetween, List.map_eq_nil_iff, List.filter_eq_nil_iff]
  intro line _ hline
  simp only [decide_eq_true_eq] at hline
  omega

/-- A window with a place that a line has is not empty. -/
theorem rowsBetween_ne_nil {first : Nat} {last : Int} (hfirst : first < lines.length)
    (hlast : (first : Int) < last) : rowsBetween lines first last ≠ [] := by
  rw [rowsBetween_eq]
  intro h
  have hlen := congrArg List.length h
  rw [length_numberLines, List.length_drop, List.length_take, List.length_nil] at hlen
  omega

theorem length_rowsBetween_le (lines : List (List Char)) (first : Nat) (last : Int) :
    (rowsBetween lines first last).length ≤ (last - first).toNat := by
  rw [rowsBetween_eq, length_numberLines, List.length_drop, List.length_take]
  omega

/-- Windows that meet make up one. -/
theorem rowsBetween_append (lines : List (List Char)) {a b c : Nat} (hab : a ≤ b) (hbc : b ≤ c) :
    rowsBetween lines a b ++ rowsBetween lines b c = rowsBetween lines a c := by
  have htake := List.take_append_drop b (lines.take c)
  rw [List.take_take, Nat.min_eq_left hbc] at htake
  simp only [rowsBetween_eq, Int.toNat_natCast]
  by_cases hb : b ≤ lines.length
  · have hlen : (lines.take b).length = b := by
      rw [List.length_take]
      omega
    have hfirst : a + ((lines.take b).drop a).length = b := by
      rw [List.length_drop, hlen]
      omega
    conv_rhs => rw [← htake, List.drop_append_of_le_length (by omega), numberLines_append, hfirst]
  · -- The lines end before the second window.
    have hnil : (lines.take c).drop b = [] := by
      rw [List.drop_eq_nil_iff, List.length_take]
      omega
    rw [hnil, List.append_nil] at htake
    rw [hnil, ← htake]
    exact List.append_nil _

/-! ## Readings of a window -/

variable {w : Workspace} {path : String} {content : List UInt8}

/-- Whether a reading of a file with an offset and a limit shows these rows. -/
def ShowsRows (w : Workspace) (path : String) (offset limit : Int) (rows : List (List Char)) :
    Prop :=
  ((read (.text path) (.int offset) (.int limit)).perform w).1 = .ok (.ok (joinLines rows))

theorem offsetOf_int (offset : Int) : offsetOf (.int offset) = .ok (.int offset.toNat) := by
  by_cases hzero : offset = 0
  · rw [hzero]
    rfl
  · have htruthy : (!(Value.int offset).truthy) = false := by simpa [Value.truthy] using hzero
    unfold offsetOf
    rw [htruthy]
    by_cases hneg : offset < 0
    · have hless : ¬ (Magnitude.quotient 0 1).less (.quotient offset 1) = true := by
        simp [Magnitude.less]
        omega
      have hnat : (offset.toNat : Int) = 0 := by omega
      simp [Value.magnitude?, hless, hnat]
    · have hless : (Magnitude.quotient 0 1).less (.quotient offset 1) = true := by
        simp [Magnitude.less]
        omega
      have hnat : (offset.toNat : Int) = offset := by omega
      simp [Value.magnitude?, hless, hnat]

/-- A file is shown from the offset up to the place that the limit leads to. -/
theorem showsRows_of_decode (hcontent : w.tree.content? (.ofText path) = some content)
    (ht : Utf8.decode content = .ok t) (offset limit : Int) :
    ShowsRows w path offset limit (rowsBetween (splitLines t) offset.toNat
      (endPlace (splitLines t).length (offset.toNat + limit))) := by
  have hread := read_eq_rowsOf hcontent ht (offsetOf_int offset)
    (.asked rfl : Shows w (.int limit) limit)
  rw [rowsOf_eq] at hread
  exact hread

theorem joinLines_ne_nil {rows : List (List Char)} (h : rows ≠ []) (hrows : ∀ row ∈ rows, row ≠ []) :
    joinLines rows ≠ [] := by
  obtain ⟨row, more, rfl⟩ := List.exists_cons_of_ne_nil h
  have hrow := hrows row List.mem_cons_self
  cases more <;> simp [joinLines, List.intercalate, List.intersperse, hrow]

/-- A number and a line make no empty row. -/
theorem ne_nil_of_mem_rowsBetween {first last : Int} :
    ∀ row ∈ rowsBetween lines first last, row ≠ [] := by
  intro row hrow
  obtain ⟨line, -, rfl⟩ := List.mem_map.1 hrow
  simp

/-- Two ways in which a file is shown have the same text. -/
theorem ShowsRows.joinLines_eq {offset limit : Int} {rows rows' : List (List Char)}
    (h : ShowsRows w path offset limit rows) (h' : ShowsRows w path offset limit rows') :
    joinLines rows = joinLines rows' := by
  rw [ShowsRows, h] at h'
  exact Except.ok.inj (Except.ok.inj h')

/-- A reading shows the lines from the offset on that the limit says, each with its number, if the
    limit does not reach back over the beginning of the file. -/
theorem showsRows_iff (hcontent : w.tree.content? (.ofText path) = some content)
    (ht : Utf8.decode content = .ok t) (offset limit : Int) :
    ShowsRows w path offset limit
        (rowsBetween (splitLines t) (max 0 offset) (max 0 offset + limit)) ↔
      0 ≤ max 0 offset + limit ∨ (splitLines t).length + limit ≤ 0 := by
  have hshows := showsRows_of_decode hcontent ht offset limit
  have hmax : max 0 offset = (offset.toNat : Int) := by omega
  rw [hmax]
  unfold endPlace at hshows
  by_cases hreach : (offset.toNat : Int) + limit < 0
  · rw [if_pos hreach] at hshows
    have hclaimed : rowsBetween (splitLines t) offset.toNat (offset.toNat + limit) = [] :=
      rowsBetween_eq_nil _ (by omega)
    rw [hclaimed]
    by_cases hlast : (splitLines t).length + limit ≤ 0
    · rw [rowsBetween_eq_nil _ (by omega)] at hshows
      exact iff_of_true hshows (.inr hlast)
    · refine iff_of_false (fun hnone => ?_) (by omega)
      have hsome : rowsBetween (splitLines t) offset.toNat
          (offset.toNat + limit + (splitLines t).length) ≠ [] :=
        rowsBetween_ne_nil (by omega) (by omega)
      exact joinLines_ne_nil hsome ne_nil_of_mem_rowsBetween (hshows.joinLines_eq hnone)
  · rw [if_neg hreach] at hshows
    exact iff_of_true hshows (.inl (by omega))

/-- Without a limit below zero a reading shows a window. -/
theorem showsRows_of_nat (hcontent : w.tree.content? (.ofText path) = some content)
    (ht : Utf8.decode content = .ok t) (offset limit : Nat) :
    ShowsRows w path offset limit (rowsBetween (splitLines t) offset (offset + limit : Nat)) := by
  have hshows := (showsRows_iff hcontent ht offset limit).2 (.inl (by omega))
  have hmax : max 0 (offset : Int) = offset := by omega
  rw [hmax] at hshows
  exact_mod_cast hshows

/-- A file is shown in windows of its lines, each line with its own number. A reading goes from the
    offset, or from the first line where that is below zero, to the place that the limit leads to
    from there. This is the window that offset and limit stand for, unless the limit leads back over
    the beginning of a file that has more lines than the limit is below zero: the place counts from
    the end of the lines then, and some are shown where the window has none. A window has no more
    lines than its limit says, and windows that meet are shown as one. -/
theorem read_windows (hcontent : w.tree.content? (.ofText path) = some content)
    (ht : Utf8.decode content = .ok t) :
    (∀ offset limit : Int, ShowsRows w path offset limit
      (rowsBetween (splitLines t) (max 0 offset)
        (endPlace (splitLines t).length (max 0 offset + limit)))) ∧
    (∀ offset limit : Int, ShowsRows w path offset limit
        (rowsBetween (splitLines t) (max 0 offset) (max 0 offset + limit)) ↔
      0 ≤ max 0 offset + limit ∨ (splitLines t).length + limit ≤ 0) ∧
    (∀ offset limit : Int,
      (rowsBetween (splitLines t) (max 0 offset) (max 0 offset + limit)).length ≤ limit.toNat) ∧
    ∀ o a b : Nat,
      ShowsRows w path o a (rowsBetween (splitLines t) o (o + a : Nat)) ∧
      ShowsRows w path (o + a : Nat) b
        (rowsBetween (splitLines t) (o + a : Nat) (o + a + b : Nat)) ∧
      ShowsRows w path o (a + b : Nat) (rowsBetween (splitLines t) o (o + a : Nat) ++
        rowsBetween (splitLines t) (o + a : Nat) (o + a + b : Nat)) := by
  have hmax : ∀ offset : Int, max 0 offset = (offset.toNat : Int) := fun offset => by omega
  refine ⟨fun offset limit => ?_, showsRows_iff hcontent ht, fun offset limit => ?_,
    fun o a b => ⟨showsRows_of_nat hcontent ht o a, showsRows_of_nat hcontent ht (o + a) b, ?_⟩⟩
  · rw [hmax]
    exact showsRows_of_decode hcontent ht offset limit
  · rw [hmax]
    refine (length_rowsBetween_le _ _ _).trans (le_of_eq ?_)
    rw [add_sub_cancel_left]
  · rw [rowsBetween_append _ (Nat.le_add_right o a) (Nat.le_add_right (o + a) b), Nat.add_assoc]
    exact showsRows_of_nat hcontent ht o (a + b)

/-- The second of three lines, and the lines from there on. -/
theorem read_windows_middle :
    let t := ['a', '\r', '\n', 'b', '\x0c', 'c']
    let w : Workspace :=
      ⟨⟨[(["f"], .file (Utf8.encode t))]⟩, "/w", [], none, none, .silent, .none, .closed, "1", .usual⟩
    w.tree.content? (.ofText "f") = some (Utf8.encode t) ∧ Utf8.decode (Utf8.encode t) = .ok t ∧
    ShowsRows w "f" 1 1 [numberText 2 ++ ['→', 'b']] ∧
    ShowsRows w "f" 1 9 [numberText 2 ++ ['→', 'b'], numberText 3 ++ ['→', 'c']] ∧
    ShowsRows w "f" (-5) (-9) [] := by
  intro t w
  have hcontent : w.tree.content? (.ofText "f") = some (Utf8.encode t) := rfl
  obtain ⟨-, hiff, -, hmeet⟩ := read_windows hcontent (Utf8.decode_encode t)
  obtain ⟨hone, -, hboth⟩ := hmeet 1 1 8
  exact ⟨hcontent, Utf8.decode_encode t, hone, hboth, (hiff (-5) (-9)).2 (.inr (by decide))⟩

/-- A limit below zero shows all lines but the last, and not none. -/
theorem read_shows_all_but_last :
    let t := ['a', '\n', 'b', '\n', 'c']
    let w : Workspace :=
      ⟨⟨[(["f"], .file (Utf8.encode t))]⟩, "/w", [], none, none, .silent, .none, .closed, "1", .usual⟩
    ShowsRows w "f" 0 (-1) [numberText 1 ++ ['→', 'a'], numberText 2 ++ ['→', 'b']] ∧
    ¬ ShowsRows w "f" 0 (-1) (rowsBetween (splitLines t) (max 0 0) (max 0 0 + -1)) := by
  intro t w
  have hcontent : w.tree.content? (.ofText "f") = some (Utf8.encode t) := rfl
  refine ⟨showsRows_of_decode hcontent (Utf8.decode_encode t) 0 (-1), ?_⟩
  rw [showsRows_iff hcontent (Utf8.decode_encode t)]
  decide

end FormEdit.Files
