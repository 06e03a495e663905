import FormEdit.Proofs.Token.Seam

set_option autoImplicit false

/-! # Tokens cut out of a source

Whether tokens are what scanning their text comes to is a local test, so a run of tokens that is cut
out of a scan is a scan (`IsScan.of_infix`), and it does not matter where a scan begins
(`IsScan.moved`). Hence the text of a run of tokens, read by itself, is cut where it was cut in the
source (`tokenize_slice`). -/

namespace FormEdit

namespace Token

/-- The first token of a scan starts where the scan does. -/
theorem IsScan.offset_head {o : Int} {t : Token} {ts : List Token} (h : IsScan o (t :: ts)) :
    t.offset = o := h.1

end Token

open Token

/-- The tokens from one place of a source to another are what their text, read by itself, is cut
    into, but for the offset of the first of them. -/
theorem tokenize_slice {source : List Char} {ts : List Token} (h : tokenize source = .ok ts)
    {i j : Nat} (hij : i ≤ j) (hj : j < ts.length) :
    tokenize (textOf ((ts.drop i).take (j + 1 - i))) =
      .ok (((ts.drop i).take (j + 1 - i)).map (Token.shift (-ts[i].offset))) := by
  have hscan := (tokenize_eq_ok_iff.1 h).2
  have hcut : ts = ts.take i ++ (ts.drop i).take (j + 1 - i) ++ (ts.drop i).drop (j + 1 - i) := by
    rw [List.append_assoc, List.take_append_drop, List.take_append_drop]
  rw [hcut] at hscan
  have hrun := hscan.of_infix
  have hfirst : (ts.drop i).take (j + 1 - i) =
      ts[i] :: (ts.drop (i + 1)).take (j - i) := by
    rw [List.drop_eq_getElem_cons (by omega), Nat.sub_add_comm hij, List.take_succ_cons]
  have hoff : ts[i].offset = 0 + ((textOf (ts.take i)).length : Int) := by
    rw [hfirst] at hrun
    exact hrun.offset_head
  refine tokenize_eq_ok_iff.2 ⟨textOf_map_shift _ _, ?_⟩
  rw [hoff]
  exact hrun.moved

/-- Cut in front of its line feed, the comment ends with the text; cut in front of the letter, the
    hash mark is an atom. -/
theorem tokenize_slice_comment_and_hash :
    ∃ ts, tokenize ['a', ' ', '#', ' ', ';', 'b', '\n', 'c'] = .ok ts ∧ ts.length = 7 ∧
      tokenize ['#', ' ', ';', 'b'] =
        .ok [⟨.atom, ['#'], 0⟩, ⟨.whitespace, [' '], 1⟩, ⟨.comment, [';', 'b'], 2⟩] := by
  have h : tokenize ['a', ' ', '#', ' ', ';', 'b', '\n', 'c'] =
      .ok [⟨.atom, ['a'], 0⟩, ⟨.whitespace, [' '], 1⟩, ⟨.atom, ['#'], 2⟩, ⟨.whitespace, [' '], 3⟩,
        ⟨.comment, [';', 'b'], 4⟩, ⟨.newline, ['\n'], 6⟩, ⟨.atom, ['c'], 7⟩] := by
    decide +kernel
  exact ⟨_, h, rfl, tokenize_slice h (i := 2) (j := 4) (by decide) (by decide)⟩

end FormEdit
