import FormEdit.Proofs.Token.Growth

set_option autoImplicit false

/-! # Tokens that stop where they end

A line feed is a token by itself and no token goes on over one, so a text and another one on the
lines behind it are scanned apart. Brackets stop where they end as well. -/

namespace FormEdit

namespace Token

/-- No token goes on over a line feed. -/
theorem Whole.standsBefore_cons_newline {t : Token} (h : t.Whole) (r : List Char) :
    t.StandsBefore ('\n' :: r) := by
  intro x hx
  obtain rfl : '\n' = x := by simpa using hx
  cases h.growth with
  | still stays => exact stays _
  | blanks kind =>
    rw [(h.runsOver_whitespace kind).1.absorbs_eq]
    exact isSpacing_newline
  | line kind =>
    rw [(h.runsOver_comment kind).1.absorbs_eq]
    rfl
  | run runs =>
    rw [runs.absorbs_eq]
    rfl
  | optional _ only =>
    by_contra habs
    exact absurd (only '\n' (by simpa using habs)) (by decide)
  | hash text =>
    rw [absorbs, text]
    rfl

theorem IsScan.standsBefore_cons_newline {o : Int} {ts : List Token} (h : IsScan o ts)
    (r : List Char) : ∀ t ∈ ts.getLast?, t.StandsBefore ('\n' :: r) :=
  fun t ht => (h.whole t (List.mem_of_getLast? ht)).standsBefore_cons_newline r

/-- The token of a line feed. -/
def lineFeed (o : Int) : Token := ⟨.newline, ['\n'], o⟩

theorem whole_lineFeed (o : Int) : (lineFeed o).Whole := ⟨'\n', [], rfl, rfl⟩

/-- The tokens of two texts, with a line feed between them, are those of both together. -/
theorem IsScan.append_lineFeed {o o' k : Int} {ts us : List Token} (hts : IsScan o ts)
    (hus : IsScan o' us) (hk : k = o + (textOf ts).length) :
    IsScan o (ts ++ lineFeed k :: us.map (Token.shift (k + 1 - o'))) := by
  have hshift := hus.shift (k + 1 - o')
  have ho : o' + (k + 1 - o') = k + 1 := by omega
  rw [ho, hk] at hshift
  rw [hk]
  refine isScan_append.2 ⟨hts, ⟨rfl, whole_lineFeed _, ?_, hshift⟩, fun t ht => ?_⟩
  · exact (whole_lineFeed _).standsBefore_newline rfl _
  · rw [textOf_cons]
    exact hts.standsBefore_cons_newline _ t ht

/-- The tokens of a text with a line feed in it are those of the part before it, the line feed and
    those of the part behind it, if the part before it is a scan. -/
theorem IsScan.exists_lineFeed {o k : Int} {us ts : List Token} {r : List Char} (hus : IsScan o us)
    (hts : IsScan o ts) (htext : textOf ts = textOf us ++ '\n' :: r)
    (hk : k = o + (textOf us).length) :
    ∃ vs, ts = us ++ lineFeed k :: vs ∧ textOf vs = r ∧ IsScan (k + 1) vs := by
  have hline : IsScan o (us ++ [lineFeed k]) := by
    have hnil : IsScan 0 [] := trivial
    exact hus.append_lineFeed hnil hk
  have hlast : ∀ t ∈ (us ++ [lineFeed k]).getLast?, t.StandsBefore r := by
    intro t ht
    rw [List.getLast?_concat, Option.mem_some_iff] at ht
    rw [← ht]
    exact (whole_lineFeed _).standsBefore_newline rfl r
  obtain ⟨vs, hvs, hvstext, hs⟩ :=
    hline.exists_append hlast hts (by rw [htext]; simp [lineFeed])
  have ho : o + ((textOf (us ++ [lineFeed k])).length : Int) = k + 1 := by
    simp only [textOf_append, textOf_cons, textOf_nil, lineFeed, List.length_append,
      List.length_cons, List.length_nil]
    omega
  rw [ho] at hs
  exact ⟨vs, by rw [hvs, List.append_assoc, List.singleton_append], hvstext, hs⟩

/-- A closing bracket stays as it is before anything. -/
theorem Whole.standsBefore_closer {t : Token} (h : t.Whole) (hk : t.kind = .closer)
    (r : List Char) : t.StandsBefore r := by
  obtain ⟨c, s, ht, hreach⟩ := h
  have hfits := fits_of_reach hreach
  rw [hk] at hfits
  obtain ⟨b, hb, hs⟩ := hfits
  obtain rfl := List.eq_nil_of_length_eq_zero hs
  intro x _
  have hc : c = ')' ∨ c = ']' ∨ c = '}' := by
    cases b <;> simp [Bracket.closing] at hb <;> simp [← hb]
  rcases hc with rfl | rfl | rfl <;> rw [absorbs, ht] <;> rfl

end Token

end FormEdit
