import FormEdit.Files.Basic
import FormEdit.Proofs.Edit.Spanning
import FormEdit.Proofs.Text.Lines
import FormEdit.Proofs.Text.Utf8
import FormEdit.Proofs.Token.Seam
import FormEdit.Proofs.Workspace.Keep

set_option autoImplicit false

/-! # Numbered lines and lines of forms

A file is shown with the numbers of its lines, and forms are located by the line feeds before them.
The two count alike but for line ends that are no line feeds: each of these that stands before a
form makes the number shown in front of the form one greater than the line of the form
(`Files.number_of_located`). -/

namespace FormEdit

open FormEdit.Action

/-! ## Where forms start -/

/-- A form does not start with a line feed, and it has text. -/
theorem Node.Proper.head?_ne_newline {n : Node} (h : n.Proper) (hn : n.isTrivia = false)
    (hw : ∀ t ∈ n.tokens, t.Whole) : n.text ≠ [] ∧ n.text.head? ≠ some '\n' := by
  have hfirst : ∃ t ts, n.tokens = t :: ts ∧ t.kind ≠ .newline := by
    cases h with
    | leaf alone =>
      refine ⟨_, [], rfl, fun hk => ?_⟩
      rw [isTrivia, Token.isTrivia, hk] at hn
      cases hn
    | delimited opens =>
      refine ⟨_, _, tokens_delimited .., fun hk => ?_⟩
      rw [opens] at hk
      cases hk
    | marked marks =>
      refine ⟨_, _, tokens_marked .., fun hk => ?_⟩
      rw [marks] at hk
      cases hk
  obtain ⟨t, ts, htokens, hk⟩ := hfirst
  have hwhole : t.Whole := hw t (by simp [htokens])
  obtain ⟨c, s, htext, -⟩ := id hwhole
  have hn : n.text = c :: (s ++ Token.textOf ts) := by simp [text, htokens, htext]
  refine ⟨by simp [hn], fun hhead => hk (hwhole.kind_of_newline ?_)⟩
  rw [hn] at hhead
  rw [htext]
  exact hhead

/-- A located form divides its source into the text before it and the text from it on, which starts
    with no line feed. -/
theorem exists_cut_of_locate {source : List Char} {line : Int} {f : LocatedForm}
    (h : locate source line = some f) :
    ∃ before rest, source = before ++ rest ∧ f.start.offset = before.length ∧
      f.startLine = 1 + before.count '\n' ∧ f.text <+: rest ∧
      rest ≠ [] ∧ rest.head? ≠ some '\n' := by
  obtain ⟨k, hk, htext, hstart, -⟩ := place_of_locate h
  obtain ⟨d, i, n, -, hd, hat, rfl⟩ := exists_placed_of_locate h
  obtain ⟨hn, htrivia, -⟩ := hat.1
  obtain ⟨-, -, hscan, hproper⟩ := Document.parse_eq_ok_iff.1 hd
  have hwhole : ∀ t ∈ n.tokens, t.Whole := by
    intro t ht
    refine hscan.whole t ?_
    rw [Node.tokensOf_eq_of_getElem? hn]
    simp [ht]
  obtain ⟨hne, hhead⟩ := (hproper n (List.mem_of_getElem? hn)).head?_ne_newline htrivia hwhole
  have hprefix : n.text <+: source.drop k := by
    rw [show n.text = _ from htext]
    exact List.take_prefix _ _
  obtain ⟨behind, hbehind⟩ := hprefix
  have hrest : source.drop k ≠ [] := by
    rw [← hbehind]
    simp [hne]
  have hlt : k < source.length := by simpa using hrest
  refine ⟨source.take k, source.drop k, (List.take_append_drop k source).symm, ?_, hstart,
    ⟨behind, hbehind⟩, hrest, ?_⟩
  · rw [hk, List.length_take_of_le (Nat.le_of_lt hlt)]
  · rw [← hbehind, List.head?_append_of_ne_nil _ hne]
    exact hhead

namespace Files

/-! ## Rows of numbered lines -/

variable {lines : List (List Char)} {t : List Char} {n : Nat}

theorem getElem?_numberLines (n : Nat) (lines : List (List Char)) (j : Nat) :
    (numberLines n lines)[j]? =
      lines[j]?.map fun line => numberText (n + j + 1) ++ '→' :: line := by
  induction lines generalizing n j with
  | nil => rfl
  | cons line lines ih =>
    cases j with
    | zero => rfl
    | succ j =>
      have hn : n + 1 + j = n + (j + 1) := by omega
      rw [numberLines, List.getElem?_cons_succ, ih, List.getElem?_cons_succ, hn]

theorem newline_notMem_numberText (n : Nat) : '\n' ∉ numberText n := by
  intro hmem
  rcases List.mem_append.1 hmem with hmem | hmem
  · exact absurd (List.eq_of_mem_replicate hmem) (by decide)
  · exact absurd (Nat.isDigit_of_mem_toDigits (by decide) (by decide) hmem) (by decide)

/-- Numbered lines are lines still. -/
theorem newline_notMem_of_mem_numberLines (h : ∀ line ∈ lines, '\n' ∉ line) :
    ∀ row ∈ numberLines n lines, '\n' ∉ row := by
  intro row hrow
  obtain ⟨j, hj⟩ := List.getElem?_of_mem hrow
  rw [getElem?_numberLines, Option.map_eq_some_iff] at hj
  obtain ⟨line, hline, rfl⟩ := hj
  have hno := h line (List.mem_of_getElem? hline)
  simp [newline_notMem_numberText, hno]

theorem getElem?_slice {α : Type} (xs : List α) {first i : Nat} {last : Int}
    (h : (first : Int) + i < last) : (slice xs first last)[i]? = xs[first + i]? := by
  have hfirst : ¬ (first : Int) < 0 := by omega
  have hlast : ¬ last < 0 := by omega
  simp only [slice, if_neg hfirst, if_neg hlast]
  rw [Int.toNat_natCast, List.getElem?_drop, List.getElem?_take, if_pos (by omega)]

/-! ## What is read -/

/-- How many lines a value asks for: as many as it says, or as the settings say. -/
inductive Shows (w : Workspace) : Value → Int → Prop
  | asked {limit : Value} {n : Int} (h : limit.index = .ok n) : Shows w limit n
  | default {s : Settings} (h : (Settings.current.perform w).1 = .ok s) :
    Shows w .null s.readLimit

/-- The rows that are shown of a text: its lines from a place on, with their numbers. -/
def rowsOf (t : List Char) (skipped : Nat) (shown : Int) : List (List Char) :=
  numberLines skipped (slice (splitLines t) skipped (skipped + shown))

theorem windowOf_of_index (skipped : Nat) {limit : Value} {shown : Int}
    (h : limit.index = .ok shown) : windowOf (.int skipped) limit = .ok (skipped, shown) := by
  cases limit with
  | bool b =>
    cases h
    rfl
  | int n =>
    cases h
    rfl
  | _ => cases h

/-- A file is shown in rows of its own lines. -/
theorem read_eq_rowsOf {w : Workspace} {path : String} {content : List UInt8} {t : List Char}
    {offset limit : Value} {skipped : Nat} {shown : Int}
    (hcontent : w.tree.content? (.ofText path) = some content) (ht : Utf8.decode content = .ok t)
    (hoffset : offsetOf offset = .ok (.int skipped)) (hshown : Shows w limit shown) :
    ((read (.text path) offset limit).perform w).1 =
      .ok (.ok (joinLines (rowsOf t skipped shown))) := by
  show Meets (read (.text path) offset limit) w fun r _ => r = _
  unfold read
  rw [hoffset]
  refine (Meets.ofExcept _ w).bind_ok ?_
  rintro w' rfl
  -- The limit is known in either way.
  refine Meets.ite_bind
    (Q := fun r w₁ => w₁.tree = w'.tree ∧ ∃ v, r = .ok v ∧ v.index = .ok shown) ?_ ?_ ?_ ?_
  · intro hnull
    cases hshown with
    | asked hindex =>
      cases limit with
      | null => cases hindex
      | _ => cases hnull
    | default hsettings =>
      refine Meets.bind_ok (R := fun w₁ => w₁.tree = w'.tree)
        ⟨hsettings, Settings.keepsTree_current w'⟩ ?_
      intro w₁ htree
      exact ⟨htree, _, rfl, rfl⟩
  · intro hnull
    cases hshown with
    | asked hindex => exact ⟨rfl, limit, rfl, hindex⟩
    | default => exact absurd rfl hnull
  · rintro _ w₁ ⟨htree, v, ⟨⟩, hv⟩
    have hread : ((readText path).perform w₁).1 = .ok (.ok t) := by
      show Except.ok (textOf path (w₁.tree.content? (.ofText path))) = _
      rw [htree, hcontent, textOf, ht]
    refine (Meets.ofExcept _ w₁).bind_ok ?_
    rintro w₂ rfl
    refine Meets.bind_ok (R := fun w₃ => w₃ = w₂) ⟨hread, rfl⟩ ?_
    rintro w₃ rfl
    dsimp only
    rw [windowOf_of_index skipped hv]
    refine (Meets.ofExcept _ w₃).bind_ok ?_
    rintro w₄ rfl
    show Except.ok _ = _
    rw [numberedLines, splitLines_unifyNewlines]
    rfl
  · rintro e w₁ ⟨-, v, ⟨⟩, -⟩

/-- In rows that are shown of a text the line that follows `k` others has its number in front. -/
theorem getElem?_rowsOf {line : List Char} {k skipped : Nat} {shown : Int}
    (hline : (splitLines t)[k]? = some line) (hfirst : skipped ≤ k)
    (hlast : (k : Int) < skipped + shown) :
    (rowsOf t skipped shown)[k - skipped]? = some (numberText (k + 1) ++ '→' :: line) := by
  have hk : skipped + (k - skipped) = k := by omega
  rw [rowsOf, getElem?_numberLines, getElem?_slice _ (by omega), hk, hline]
  rfl

theorem newline_notMem_of_mem_rowsOf {skipped : Nat} {shown : Int} :
    ∀ row ∈ rowsOf t skipped shown, '\n' ∉ row := by
  refine newline_notMem_of_mem_numberLines fun line hline => ?_
  exact newline_notMem_of_mem_splitLines (List.mem_of_mem_take (List.mem_of_mem_drop hline))

variable {w : Workspace} {path : String} {content : List UInt8} {line : Int} {f : LocatedForm}

/-- The number that is shown in front of the line on which a form starts is the line of the form and
    one more for each line end before the form that is no line feed, alone or behind a carriage
    return. The text that forms are located in is that of the file as it stands; the line has what
    stands on it before the form, and what follows. -/
theorem number_of_located (hcontent : w.tree.content? (.ofText path) = some content)
    (ht : Utf8.decode content = .ok t) (hf : locate t line = some f) :
    ((readText path).perform w).1 = .ok (.ok t) ∧
    ∃ above begun rest, ∃ k : Nat, t = above ++ begun ++ rest ∧ BeginsLine above begun ∧
      f.start.offset = (above ++ begun).length ∧ f.text <+: rest ∧
      (k : Int) = f.startLine + otherEnds (above ++ begun) ∧
      ∀ offset limit (skipped : Nat) shown, offsetOf offset = .ok (.int skipped) →
        Shows w limit shown → skipped < k → (k : Int) ≤ skipped + shown →
        ∃ rows, ((read (.text path) offset limit).perform w).1 = .ok (.ok (joinLines rows)) ∧
          (∀ row ∈ rows, '\n' ∉ row) ∧ rows[k - 1 - skipped]? =
            some (numberText k ++ '→' :: (begun ++ rest.takeWhile (!isLineBreak ·))) := by
  obtain ⟨before, rest, rfl, hoffset, hstart, htext, hne, hhead⟩ := exists_cut_of_locate hf
  obtain ⟨above, begun, rfl, hbegins, hline⟩ := exists_splitLines_append before hhead hne
  refine ⟨?_, above, begun, rest, (above ++ begun).count '\n' + otherEnds (above ++ begun) + 1, rfl,
    hbegins, hoffset, htext, by omega, ?_⟩
  · show Except.ok (textOf path (w.tree.content? (.ofText path))) = _
    rw [hcontent, textOf, ht]
  · intro offset limit skipped shown hskipped hshown hfirst hlast
    refine ⟨_, read_eq_rowsOf hcontent ht hskipped hshown, newline_notMem_of_mem_rowsOf, ?_⟩
    rw [Nat.add_sub_cancel]
    exact getElem?_rowsOf hline (by omega) (by omega)

/-- With a vertical tab on the way, the form that is on the third line by line feeds is shown on the
    fourth. -/
theorem number_of_located_vertical_tab :
    let t := ['\n', '\x0b', '\r', '\n', '(', ')']
    let w : Workspace :=
      ⟨⟨[(["f"], .file (Utf8.encode t))]⟩, "/w", [], none, none, .silent, .none, .closed, "1", .usual⟩
    let form : LocatedForm :=
      ⟨3, .delimited .list ⟨.opener, ['('], 4⟩ [] ⟨.closer, [')'], 5⟩, ⟨4, 3, 1⟩, 3⟩
    w.tree.content? (.ofText "f") = some (Utf8.encode t) ∧ Utf8.decode (Utf8.encode t) = .ok t ∧
    locate t 3 = some form ∧ offsetOf (.int 3) = .ok (.int (3 : Nat)) ∧ Shows w (.int 1) 1 ∧
    ∃ rows line, ((read (.text "f") (.int 3) (.int 1)).perform w).1 = .ok (.ok (joinLines rows)) ∧
      rows[0]? = some (numberText 4 ++ '→' :: line) := by
  intro t w form
  have hcontent : w.tree.content? (.ofText "f") = some (Utf8.encode t) := rfl
  have hd : Document.parse t = .ok ⟨[.leaf ⟨.newline, ['\n'], 0⟩,
      .leaf ⟨.whitespace, ['\x0b', '\r'], 1⟩, .leaf ⟨.newline, ['\n'], 3⟩, form.node], t⟩ := by
    cbv
  have hf : locate t 3 = some form := by
    rw [locate_of_parse hd (by decide)]
    rfl
  have hskipped : offsetOf (.int 3) = .ok (.int (3 : Nat)) := rfl
  have hshown : Shows w (.int 1) 1 := .asked rfl
  have ht := Utf8.decode_encode t
  refine ⟨hcontent, ht, hf, hskipped, hshown, ?_⟩
  obtain ⟨-, above, begun, rest, k, heq, -, hoffset, -, hk, hread⟩ :=
    number_of_located hcontent ht hf
  have hbefore : above ++ begun = t.take 4 := by
    have hlength : 4 = (above ++ begun).length := by
      have hfour : form.start.offset = (4 : Nat) := rfl
      rw [hfour] at hoffset
      exact_mod_cast hoffset
    rw [heq, hlength, List.take_left]
  rw [hbefore] at hk
  obtain rfl : k = 4 := by
    have hone : otherEnds (t.take 4) = 1 := by decide
    have hline : form.startLine = 3 := rfl
    omega
  obtain ⟨rows, hrows, -, hrow⟩ := hread _ _ _ _ hskipped hshown (by decide) (by decide)
  exact ⟨rows, _, hrows, hrow⟩

/-- A form behind a form feed is located on the first line, but is shown on the second. -/
theorem number_of_located_form_feed :
    let t := ['\x0c', '(', 'a', ')']
    let w : Workspace :=
      ⟨⟨[(["f"], .file (Utf8.encode t))]⟩, "/w", [], none, none, .silent, .none, .closed, "1", .usual⟩
    ∃ form, locate t 1 = some form ∧ form.start = ⟨1, 1, 2⟩ ∧ form.text = ['(', 'a', ')'] ∧
      ((readText "f").perform w).1 = .ok (.ok t) ∧
      ((read (.text "f") (.int 0) (.int 9)).perform w).1 =
        .ok (.ok (joinLines [numberText 1 ++ ['→'], numberText 2 ++ ['→', '(', 'a', ')']])) := by
  intro t w
  have hcontent : w.tree.content? (.ofText "f") = some (Utf8.encode t) := rfl
  let list : Node :=
    .delimited .list ⟨.opener, ['('], 1⟩ [.leaf ⟨.atom, ['a'], 2⟩] ⟨.closer, [')'], 3⟩
  have hd : Document.parse t = .ok ⟨[.leaf ⟨.whitespace, ['\x0c'], 0⟩, list], t⟩ := by cbv
  refine ⟨⟨1, list, ⟨1, 1, 2⟩, 1⟩, ?_, rfl, rfl, ?_, ?_⟩
  · rw [locate_of_parse hd (by decide)]
    rfl
  · show Except.ok (textOf "f" (w.tree.content? (.ofText "f"))) = _
    rw [hcontent, textOf, Utf8.decode_encode]
  · have hshown : Shows w (.int 9) 9 := .asked rfl
    have hskipped : offsetOf (.int 0) = .ok (.int (0 : Nat)) := rfl
    exact read_eq_rowsOf hcontent (Utf8.decode_encode t) hskipped hshown

end Files

end FormEdit
