import FormEdit.Proofs.Document.Alone
import FormEdit.Proofs.Document.Join
import FormEdit.Proofs.Edit.Spanning

set_option autoImplicit false

/-! # The line on which a form ends

The end line of a form counts all line feeds in its text, the last character included. So it is the
line of that character unless the character is a line feed itself, and that is so for one kind of
form: one that ends in the character literal of a line feed (`Node.endsInFeed_iff`). Such a form has
an end line on which none of its characters stands, and it is located there all the same
(`endLine_of_last_character`). -/

namespace FormEdit

/-! ## Lines of characters -/

/-- The line of the character with index `k`: one more than the line feeds strictly before it. -/
def lineAt (source : List Char) (k : Nat) : Int := 1 + (source.take k).count '\n'

theorem lineAt_append (s t : List Char) (j : Nat) :
    lineAt (s ++ t) (s.length + j) = 1 + s.count '\n' + (t.take j).count '\n' := by
  rw [lineAt, List.take_length_add_append, List.count_append]
  omega

theorem lineAt_le {s : List Char} {j k : Nat} (h : j ≤ k) : lineAt s j ≤ lineAt s k := by
  have hle : (s.take j).count '\n' ≤ (s.take k).count '\n' :=
    (List.take_prefix_take_left h).sublist.count_le _
  rw [lineAt, lineAt]
  omega

theorem lineAt_succ_le (s : List Char) (k : Nat) : lineAt s (k + 1) ≤ lineAt s k + 1 := by
  have hlast : s[k]?.toList.count '\n' ≤ 1 :=
    Nat.le_trans List.count_le_length (by cases s[k]? <;> simp)
  rw [lineAt, lineAt, List.take_add_one, List.count_append]
  omega

/-- Lines have no gap: between two characters there is one on each of the lines between theirs. -/
theorem exists_lineAt {s : List Char} {line : Int} {j m : Nat} (hjm : j ≤ m)
    (hj : lineAt s j ≤ line) (hm : line ≤ lineAt s m) :
    ∃ k, j ≤ k ∧ k ≤ m ∧ lineAt s k = line := by
  induction m, hjm using Nat.le_induction with
  | base => exact ⟨j, le_rfl, le_rfl, by omega⟩
  | succ m hjm ih =>
    by_cases hle : line ≤ lineAt s m
    · obtain ⟨k, hjk, hkm, hk⟩ := ih hle
      exact ⟨k, hjk, by omega, hk⟩
    · have := lineAt_succ_le s m
      exact ⟨m + 1, by omega, le_rfl, by omega⟩

/-! ## Forms that end in a line feed -/

/-- Only the character literal of a line feed is no trivia and ends in one. -/
theorem Token.Whole.getLast?_newline_iff {t : Token} (h : t.Whole) (ht : t.isTrivia = false) :
    t.text.getLast? = some '\n' ↔ t.kind = .char ∧ t.text = ['\\', '\n'] := by
  constructor
  · intro hlast
    have hmem : '\n' ∈ t.text := List.mem_of_getLast? hlast
    cases h.shape with
    | comment kind => simp [isTrivia, kind, TokenKind.isTrivia] at ht
    | @string m s _ _ text closes =>
      rw [text, List.getLast?_append, List.getLast?_cons, closes.getLast?] at hlast
      simp at hlast
    | @char c kind text =>
      rw [text] at hlast
      have hc : c = '\n' := by simpa using hlast
      exact ⟨kind, by rw [text, hc]⟩
    | run _ _ _ clear => exact absurd rfl (clear _ hmem).2
    | plain _ _ _ line => simp [isTrivia, (line hmem).2, TokenKind.isTrivia] at ht
  · rintro ⟨-, text⟩
    rw [text]
    rfl

/-- Whether the last token of a node is the character literal of a line feed. -/
def Node.endsInFeed (n : Node) : Bool :=
  n.tokens.getLast?.any fun t => t.kind = .char && t.text = ['\\', '\n']

/-- A form has a last character, and it is a line feed exactly if the last token is the character
    literal of one. -/
theorem Node.exists_last {n : Node} (hn : n.Proper) (ht : n.isTrivia = false)
    (hw : ∀ t ∈ n.tokens, t.Whole) :
    ∃ s c, n.text = s ++ [c] ∧ (n.endsInFeed = true ↔ c = '\n') := by
  obtain ⟨ts, t, htok, htriv⟩ := hn.exists_concat
  have hwhole : t.Whole := hw t (by simp [htok])
  obtain ⟨s, c, htext⟩ := (List.eq_nil_or_concat t.text).resolve_left hwhole.text_ne_nil
  rw [List.concat_eq_append] at htext
  refine ⟨Token.textOf ts ++ s, c, ?_, ?_⟩
  · rw [text, htok, Token.textOf_append, Token.textOf_cons, Token.textOf_nil, List.append_nil,
      htext, List.append_assoc]
  · have hlast := hwhole.getLast?_newline_iff (htriv.trans ht)
    rw [endsInFeed, htok, List.getLast?_concat, Option.any_some, ← Bool.decide_and,
      decide_eq_true_eq, ← hlast, htext, List.getLast?_concat, Option.some.injEq]

namespace Document

variable {source : List Char} {d : Document} {i : Nat} {up : Trail} {n : Node}

/-- The text of a node in its source, and where the node starts there. -/
theorem exists_around_node? (hd : parse source = .ok d) (hn : d.node? i up = some n) :
    ∃ before behind p, source = before ++ (n.text ++ behind) ∧ d.startOf? i up = some p ∧
      p.offset = before.length ∧ p.line = 1 + before.count '\n' := by
  obtain ⟨us, vs, htok, hstart⟩ := exists_startOf? hn
  have htext : Token.textOf (Node.tokensOf d.nodes) = source := (parse_eq_ok_iff.1 hd).2.1
  refine ⟨Token.textOf us, Token.textOf vs, _, ?_, hstart, ?_, ?_⟩
  · rw [← htext, htok, Token.textOf_append, Token.textOf_append, List.append_assoc]
    rfl
  · rw [Position.advance_offset]
    exact Int.zero_add _
  · rw [Position.advance_line]
    rfl

theorem whole_of_node? (hd : parse source = .ok d) (hn : d.node? i up = some n) :
    ∀ t ∈ n.tokens, t.Whole := by
  obtain ⟨us, vs, htok⟩ := tokensOf_eq_of_node? hn
  obtain ⟨-, -, hscan, -⟩ := parse_eq_ok_iff.1 hd
  intro t ht
  refine hscan.whole t ?_
  rw [htok]
  simp [ht]

/-- The end line of a form is the line of its last character, or the line behind it if the form ends
    in the character literal of a line feed. -/
theorem endLine?_eq (hd : parse source = .ok d) (hn : d.node? i up = some n)
    (ht : n.isTrivia = false) :
    ∃ p, ∃ k : Nat, d.startOf? i up = some p ∧ p.offset + n.text.length = k + 1 ∧
      p.offset ≤ k ∧ k < source.length ∧ p.line = lineAt source p.offset.toNat ∧
      (⟨d, some (i, up)⟩ : Cursor).endLine? =
        some (lineAt source k + if n.endsInFeed then 1 else 0) ∧
      (n.endsInFeed = true ↔ source[k]? = some '\n') := by
  have hwhole := whole_of_node? hd hn
  have hproper : n.Proper := proper_of_node? (parse_eq_ok_iff.1 hd).2.2.2 hn
  obtain ⟨before, behind, p, hsource, hstart, hoffset, hline⟩ := exists_around_node? hd hn
  obtain ⟨s, c, htext, hlast⟩ := Node.exists_last hproper ht hwhole
  have hk : source[before.length + s.length]? = some c := by
    rw [hsource, htext, List.getElem?_append_right (Nat.le_add_right _ _),
      Nat.add_sub_cancel_left]
    simp
  refine ⟨p, before.length + s.length, hstart, ?_, ?_, (List.getElem?_eq_some_iff.1 hk).1, ?_, ?_,
    ?_⟩
  · rw [hoffset, htext, List.length_append, List.length_singleton]
    omega
  · omega
  · rw [hline, hoffset, hsource, Int.toNat_natCast]
    exact (lineAt_append before _ 0).symm
  · have hnode : (⟨d, some (i, up)⟩ : Cursor).node? = some n := hn
    have hposition : (⟨d, some (i, up)⟩ : Cursor).position? = some p := hstart
    have hat : lineAt source (before.length + s.length) =
        1 + before.count '\n' + s.count '\n' := by
      rw [hsource, lineAt_append, htext, List.append_assoc, List.take_left]
    have hcount : n.text.count '\n' = s.count '\n' + if n.endsInFeed then 1 else 0 := by
      rw [htext, List.count_append, List.count_singleton]
      simp [hlast]
    rw [Cursor.endLine?, hnode, hposition, hat]
    simp only [Node.endLine, hline, hcount]
    rw [Option.some.injEq]
    split <;> omega
  · rw [hk, hlast, Option.some.injEq]

end Document

/-- A located form has a character on the line, unless it ends in the character literal of a line
    feed and the line is its end line. -/
theorem exists_lineAt_of_locate {source : List Char} {line : Int} {f : LocatedForm}
    (h : locate source line = some f) :
    (∃ k : Nat, f.start.offset ≤ k ∧ k < f.start.offset + f.text.length ∧
      lineAt source k = line) ↔ ¬(f.node.endsInFeed = true ∧ line = f.endLine) := by
  obtain ⟨d, i, n, -, hd, ⟨⟨hn, ht, -, -⟩, -⟩, rfl⟩ := exists_placed_of_locate h
  obtain ⟨-, hoffset, -, -, -, hstart, hend⟩ := place_of_locate h
  obtain ⟨-, hposition, hendLine⟩ := Document.cursor_placed hn
  have hn' : d.node? i [] = some n := hn
  obtain ⟨p, m, hp, hm, hfirst, -, hline, heq, -⟩ := Document.endLine?_eq hd hn' ht
  have hp' : p = (d.placed i n).start := Option.some.inj (hp.symm.trans hposition)
  rw [hendLine, Option.some.injEq] at heq
  subst hp'
  have htext : (d.placed i n).text = n.text := rfl
  have hnode : (d.placed i n).node = n := rfl
  rw [LocatedForm.startLine, hline] at hstart
  rw [htext, hnode]
  constructor
  · rintro ⟨k, -, hk, rfl⟩ ⟨hfeed, hat⟩
    have := lineAt_le (s := source) (j := k) (k := m) (by omega)
    rw [if_pos hfeed] at heq
    omega
  · intro hno
    have hle : line ≤ lineAt source m := by
      by_cases hfeed : n.endsInFeed = true
      · have : line ≠ (d.placed i n).endLine := fun he => hno ⟨hfeed, he⟩
        rw [if_pos hfeed] at heq
        omega
      · rw [if_neg hfeed] at heq
        omega
    obtain ⟨k, hjk, hkm, hk⟩ := exists_lineAt (by omega) hstart hle
    exact ⟨k, by omega, by omega, hk⟩

/-- In a document that was read the end line of a form, at any depth, is the line of its last
    character, or the line behind it if that character is a line feed; and that is so exactly for
    the forms whose last token is the character literal of a line feed. A form that is located at a
    line has a character on that line, with one exception: the end line of such a form. -/
theorem endLine_of_last_character {source : List Char} {d : Document}
    (hd : Document.parse source = .ok d) :
    (∀ i up n, d.node? i up = some n → n.isTrivia = false →
      ∃ p, ∃ k : Nat, d.startOf? i up = some p ∧ p.offset + n.text.length = k + 1 ∧
        p.offset ≤ k ∧ k < source.length ∧ p.line = lineAt source p.offset.toNat ∧
        (⟨d, some (i, up)⟩ : Cursor).endLine? =
          some (lineAt source k + if n.endsInFeed then 1 else 0) ∧
        (n.endsInFeed = true ↔ source[k]? = some '\n')) ∧
    ∀ line f, locate source line = some f →
      ((∃ k : Nat, f.start.offset ≤ k ∧ k < f.start.offset + f.text.length ∧
        lineAt source k = line) ↔ ¬(f.node.endsInFeed = true ∧ line = f.endLine)) :=
  ⟨fun _ _ _ hn ht => Document.endLine?_eq hd hn ht, fun _ _ h => exists_lineAt_of_locate h⟩

set_option maxRecDepth 20000 in
/-- The literal is quoted here, and the mark around it ends with it. -/
theorem endLine_of_quoted_line_feed :
    let source := ['\'', '\\', '\n', 'a']
    let literal : Node := .leaf ⟨.char, ['\\', '\n'], 1⟩
    let form : Node := .marked ⟨.mark, ['\''], 0⟩ [literal]
    Document.parse source = .ok ⟨[form, .leaf ⟨.atom, ['a'], 3⟩], source⟩ ∧
    form.endsInFeed = true ∧
    (∃ k : Nat, (0 : Int) + form.text.length = k + 1 ∧
      (⟨⟨[form, .leaf ⟨.atom, ['a'], 3⟩], source⟩, some (0, [])⟩ : Cursor).endLine? =
        some (lineAt source k + 1)) := by
  intro source literal form
  have hd : Document.parse source = .ok ⟨[form, .leaf ⟨.atom, ['a'], 3⟩], source⟩ := by cbv
  obtain ⟨p, k, hp, hk, -, -, -, hend, -⟩ := (endLine_of_last_character hd).1 0 [] form rfl rfl
  have hp' : p = ⟨0, 1, 1⟩ := (Option.some.inj hp).symm
  subst hp'
  exact ⟨hd, rfl, k, hk, hend⟩

set_option maxRecDepth 20000 in
/-- The character literal of a line feed alone is located at the second line, where it has no
    character. -/
theorem endLine_not_of_last_character :
    let source := ['\\', '\n']
    let form : Node := .leaf ⟨.char, source, 0⟩
    Document.parse source = .ok ⟨[form], source⟩ ∧ form.isTrivia = false ∧
    (⟨⟨[form], source⟩, some (0, [])⟩ : Cursor).endLine? = some 2 ∧ lineAt source 1 = 1 ∧
    locate source 2 = some ⟨0, form, ⟨0, 1, 1⟩, 2⟩ ∧
    ¬ ∃ k < source.length, lineAt source k = 2 := by
  intro source form
  have hd : Document.parse source = .ok ⟨[form], source⟩ := by cbv
  refine ⟨hd, rfl, rfl, rfl, ?_, ?_⟩
  · rw [locate_of_parse hd (by decide)]
    rfl
  · rintro ⟨k, hk, hline⟩
    have := lineAt_le (s := source) (j := k) (k := 1) (Nat.le_of_lt_succ hk)
    have hfirst : lineAt source 1 = 1 := rfl
    omega

end FormEdit
