import FormEdit.Proofs.Document.Nesting
import FormEdit.Proofs.Edit.Outcome

set_option autoImplicit false

/-! # Closers that are dropped

The brackets of a source that is well formed settle. Without one of its closers they do not, as long
as the brackets behind the closer stay what they are. They change only if the token before the closer
goes on over the word behind it and the two end differently than the word by itself, and only in a
few ways can the change make up for the closer (`MakesUp`). -/

namespace FormEdit

open Token

/-! ## Words that are read on -/

/-- What stands before the first delimiter of a text. -/
def wordOf (r : List Char) : List Char := r.takeWhile fun c => !isDelimiter c

/-- The text from its first delimiter on. -/
def behindWord (r : List Char) : List Char := r.dropWhile fun c => !isDelimiter c

/-- How the word behind a closer may make up for the closer when that is dropped. It ends differently
    when the token before the closer goes on over it (`joined`) than by itself (`alone`), and that
    tells on the text `r` behind it: one of the endings is in a comment, a string or a comment may
    open next, the same closer stands next and is a character literal no more, or an opener stands
    next and is one now. -/
def MakesUp (joined alone : Ending) (closer r : List Char) : Prop :=
  joined ≠ alone ∧ (joined = .comment ∨ alone = .comment ∨ ∃ n ∈ r.head?, n = '"' ∨ n = ';' ∨
    alone = .literal .char ∧ closer = [n] ∨ joined = .literal .char ∧ (closerOf? n).isSome)

section Words

variable {x w r front behind behind' : List Char} {b : Char}

/-- A delimiter that opens neither a string nor a comment is a bracket or has no part in them. -/
theorem brackets?_of_isDelimiter {n : Char} (hn : isDelimiter n = true)
    (h : brackets? (n :: r) = some behind) (h' : brackets? r = some behind') :
    (n = '"' ∨ n = ';') ∨ behind = behind' ∨ behind = n :: behind' := by
  rcases isDelimiter_cases hn with hn | hn | hn | hn
  · exact .inl (.inl hn)
  · exact .inl (.inr hn)
  · rw [brackets?_blank hn, h', Option.some.injEq] at h
    exact .inr (.inl h.symm)
  · rw [brackets?_bracket hn, h', Option.map_some, Option.some.injEq] at h
    exact .inr (.inr h.symm)

/-- An ending behind which brackets can be read is no open string, and a character follows an open
    character literal. -/
theorem Ending.literal_cases {l : OpenLiteral}
    (h : ((Ending.literal l).behind? r).bind brackets? = some behind) :
    l = .char ∧ ∃ n q, r = n :: q ∧ brackets? q = some behind := by
  cases l with
  | string => cases h
  | char =>
    cases r with
    | nil => cases h
    | cons n q => exact ⟨rfl, n, q, rfl, h⟩

/-- Where the character of a literal stands by itself without the closer, it opens a string or a
    comment or is the closer again. -/
theorem next_of_freed {n : Char} (hb : closerOf? b = none) (hn : isDelimiter n = true)
    (hjoined : brackets? (n :: r) = some behind') (halone : brackets? r = some behind)
    (hsettle : settle [] (front ++ b :: behind) = some [])
    (hsettle' : settle [] (front ++ behind') = some []) : n = '"' ∨ n = ';' ∨ b = n := by
  have hexcess := excess_behind_closer hb hsettle hsettle'
  rcases brackets?_of_isDelimiter hn hjoined halone with (hn | hn) | rfl | rfl
  · exact .inl hn
  · exact .inr (.inl hn)
  · omega
  · cases hcloser : closerOf? n with
    | some c =>
      rw [excess_cons, weight_of_opener hcloser] at hexcess
      omega
    | none => exact .inr (.inr (closer_unique hb hcloser hsettle hsettle'))

/-- Where a character that stands by itself is that of a literal without the closer, it opens a
    string or a comment or is an opener. -/
theorem next_of_taken {n : Char} (hb : closerOf? b = none) (hn : isDelimiter n = true)
    (hjoined : brackets? r = some behind') (halone : brackets? (n :: r) = some behind)
    (hsettle : settle [] (front ++ b :: behind) = some [])
    (hsettle' : settle [] (front ++ behind') = some []) :
    n = '"' ∨ n = ';' ∨ (closerOf? n).isSome := by
  have hexcess := excess_behind_closer hb hsettle hsettle'
  rcases brackets?_of_isDelimiter hn halone hjoined with (hn | hn) | rfl | rfl
  · exact .inl hn
  · exact .inr (.inl hn)
  · omega
  · cases hcloser : closerOf? n with
    | some c => exact .inr (.inr rfl)
    | none =>
      rw [excess_cons, weight_of_closer hcloser] at hexcess
      omega

/-- Brackets that settle with a closer before a word and a delimiter do not settle without the closer
    when more stands before the word, unless that makes up for the closer. -/
theorem not_settle_without_closer (hb : closerOf? b = none)
    (hx : ∀ a ∈ x, isDelimiter a = false) (hw : ∀ a ∈ w, isDelimiter a = false)
    (hr : ∀ d ∈ r.head?, isDelimiter d = true) (hjoined : brackets? (x ++ r) = some behind')
    (halone : brackets? (w ++ r) = some behind) (hclear : ¬ MakesUp (ending x) (ending w) [b] r)
    (hsettle : settle [] (front ++ b :: behind) = some []) :
    settle [] (front ++ behind') ≠ some [] := by
  intro hsettle'
  rw [brackets?_word hx hr] at hjoined
  rw [brackets?_word hw hr] at halone
  have hdiffer : ending x ≠ ending w := by
    intro heq
    rw [heq, halone, Option.some.injEq] at hjoined
    rw [hjoined] at hsettle
    exact not_settle_of_dropped hb hsettle hsettle'
  cases hendx : ending x with
  | comment => exact hclear ⟨hdiffer, .inl hendx⟩
  | closed =>
    rw [hendx] at hjoined
    cases hendw : ending w with
    | closed => exact hdiffer (hendx.trans hendw.symm)
    | comment => exact hclear ⟨hdiffer, .inr (.inl hendw)⟩
    | literal l =>
      rw [hendw] at halone
      obtain ⟨rfl, n, q, rfl, halone⟩ := Ending.literal_cases halone
      refine hclear ⟨hdiffer, .inr (.inr ⟨n, rfl, ?_⟩)⟩
      rcases next_of_freed hb (hr n rfl) hjoined halone hsettle hsettle' with hn | hn | rfl
      · exact .inl hn
      · exact .inr (.inl hn)
      · exact .inr (.inr (.inl ⟨hendw, rfl⟩))
  | literal l =>
    rw [hendx] at hjoined
    obtain ⟨rfl, n, q, rfl, hjoined⟩ := Ending.literal_cases hjoined
    cases hendw : ending w with
    | comment => exact hclear ⟨hdiffer, .inr (.inl hendw)⟩
    | literal l' =>
      rw [hendw] at halone
      obtain ⟨rfl, -⟩ := Ending.literal_cases halone
      exact hdiffer (hendx.trans hendw.symm)
    | closed =>
      rw [hendw] at halone
      refine hclear ⟨hdiffer, .inr (.inr ⟨n, rfl, ?_⟩)⟩
      rcases next_of_taken hb (hr n rfl) hjoined halone hsettle hsettle' with hn | hn | hopens
      · exact .inl hn
      · exact .inr (.inl hn)
      · exact .inr (.inr (.inr ⟨hendx, hopens⟩))

end Words

/-! ## Closers of a source -/

section Source

variable {source : List Char} {us vs ts : List Token} {t c : Token}

/-- A source that is well formed is cut into tokens that are taken in and of which the brackets
    settle. -/
theorem exists_tokens_of_isBalanced (h : isBalanced source = true) :
    ∃ ts, tokenize source = .ok ts ∧ settle [] (bracketsOf ts) = some [] ∧
      ∃ done, Builder.empty.run .start ts = .ok done := by
  obtain ⟨d, hd⟩ := exists_parse h
  obtain ⟨-, htext, hscan, hproper⟩ := Document.parse_eq_ok_iff.1 hd
  have hsettle := settle_tokensOf (fun n hn => (hproper n hn).settle) [] []
  rw [List.append_nil] at hsettle
  exact ⟨Node.tokensOf d.nodes, tokenize_eq_ok_iff.2 ⟨htext, hscan⟩, hsettle, _,
    Builder.run_nodes hproper⟩

/-- A scanned closer is one character, its bracket. -/
theorem Token.Whole.exists_closer (h : c.Whole) (hk : c.kind = .closer) :
    ∃ b, c.text = [b] ∧ closerOf? b = none ∧ c.bracket? = some b := by
  obtain ⟨b, s, ht, hreach⟩ := h
  have hfits := fits_of_reach hreach
  rw [hk] at hfits
  obtain ⟨br, hb, hs⟩ := hfits
  rw [List.eq_nil_of_length_eq_zero hs] at ht
  obtain ⟨-, y, -, hclosing, -, hy⟩ := br.exists_ends
  rw [hb, List.getLast?_singleton, Option.some.injEq] at hclosing
  refine ⟨b, ht, by rw [hclosing, hy], ?_⟩
  rw [bracket?, hk, ht]
  rfl

/-- The text that is left without a closer has the brackets of the tokens before the last one, and
    those of the last one read together with the rest. -/
theorem exists_bracketsOf_joined (hscan : IsScan 0 (us ++ t :: c :: vs)) (hts : IsScan 0 ts)
    (htext : textOf ts = textOf us ++ (t.text ++ textOf vs)) :
    ∃ behind, bracketsOf ts = bracketsOf us ++ behind ∧
      brackets? (t.text ++ textOf vs) = some behind := by
  obtain ⟨hus, ⟨-, ht, -⟩, hlast⟩ := isScan_append.1 hscan
  obtain ⟨x, s, hxs, -⟩ := ht
  have hstand : ∀ u ∈ us.getLast?, u.StandsBefore (t.text ++ textOf vs) := by
    intro u hu
    have := hlast u hu
    rw [textOf_cons, hxs] at this
    rw [hxs]
    exact this
  obtain ⟨ws, rfl, hws, hscan'⟩ := hus.exists_append hstand hts htext
  exact ⟨bracketsOf ws, bracketsOf_append us ws, by rw [← hws, brackets?_textOf hscan']⟩

/-- Brackets that settle with a closer behind a token do not settle when the token meets the text
    behind the closer, if the word there does not make up for the closer. -/
theorem not_settle_joined {r front behind behind' : List Char} {b : Char} (ht : t.Whole)
    (hmark : t.kind ≠ .mark) (hcomment : t.kind ≠ .comment) (hb : closerOf? b = none)
    (hjoined : brackets? (t.text ++ r) = some behind') (halone : brackets? r = some behind)
    (hclear : ¬ MakesUp (ending (t.text ++ wordOf r)) (ending (wordOf r)) [b] (behindWord r))
    (hsettle : settle [] (front ++ (t.bracket?.toList ++ b :: behind)) = some []) :
    settle [] (front ++ behind') ≠ some [] := by
  rcases ht.brackets?_append_or_clear hmark hcomment r with hsame | hword
  · rw [hjoined, halone, Option.map_some, Option.some.injEq] at hsame
    rw [← List.append_assoc] at hsettle
    rw [hsame, ← List.append_assoc]
    exact not_settle_of_dropped hb hsettle
  · rw [ht.bracket?_of_clear hword, Option.toList_none, List.nil_append] at hsettle
    have hr : wordOf r ++ behindWord r = r := List.takeWhile_append_dropWhile
    have hw : ∀ a ∈ wordOf r, isDelimiter a = false := fun a ha => by
      simpa using List.mem_takeWhile_imp ha
    have hx : ∀ a ∈ t.text ++ wordOf r, isDelimiter a = false := fun a ha =>
      (List.mem_append.1 ha).elim (hword a) (hw a)
    have hnext : ∀ d ∈ (behindWord r).head?, isDelimiter d = true := by
      intro d hd
      have hnot := List.head?_dropWhile_not (fun c => !isDelimiter c) r
      rw [← behindWord, Option.mem_def.1 hd] at hnot
      simpa using hnot
    rw [← hr] at halone
    rw [← hr, ← List.append_assoc] at hjoined
    exact not_settle_without_closer hb hx hw hnext hjoined halone hclear hsettle

/-- A source that is well formed is so no longer when one of its closers is dropped, unless the word
    behind the closer, which the token before it goes on over then, makes up for it. -/
theorem not_isBalanced_without_closer (hbalanced : isBalanced source = true)
    (hts : tokenize source = .ok (us ++ c :: vs)) (hc : c.kind = .closer)
    (hclear : ∀ t ∈ us.getLast?, ¬ MakesUp (ending (t.text ++ wordOf (textOf vs)))
      (ending (wordOf (textOf vs))) c.text (behindWord (textOf vs))) :
    isBalanced (source.eraseIdx c.offset.toNat) = false := by
  obtain ⟨ts, htokens, hsettle, done, hrun⟩ := exists_tokens_of_isBalanced hbalanced
  obtain rfl : us ++ c :: vs = ts := Except.ok.inj (hts.symm.trans htokens)
  obtain ⟨htext, hscan⟩ := tokenize_eq_ok_iff.1 hts
  obtain ⟨-, ⟨hoffset, hwhole, -, hvs⟩, hlast⟩ := isScan_append.1 hscan
  obtain ⟨b, hctext, hb, hbracket⟩ := hwhole.exists_closer hc
  have hleft : source.eraseIdx c.offset.toNat = textOf us ++ textOf vs := by
    rw [hoffset, Int.zero_add, Int.toNat_natCast, ← htext, textOf_append, textOf_cons, hctext,
      List.eraseIdx_append_of_length_le (Nat.le_refl _), Nat.sub_self]
    rfl
  rw [bracketsOf_append, bracketsOf_cons, hbracket] at hsettle
  rw [Bool.eq_false_iff]
  intro hstill
  obtain ⟨ts, hts', hsettle', -⟩ := exists_tokens_of_isBalanced hstill
  obtain ⟨htext', hscan'⟩ := tokenize_eq_ok_iff.1 hts'
  rw [hleft] at htext'
  rcases List.eq_nil_or_concat' us with rfl | ⟨us, t, rfl⟩
  · -- No closer is due before the first token.
    rw [bracketsOf_nil, List.nil_append, Option.toList_some, List.singleton_append, settle_cons,
      Option.bind_eq_some_iff] at hsettle
    obtain ⟨due, hdue, -⟩ := hsettle
    cases eq_of_settleOne hb hdue
  · have ht := hscan.whole t (by simp)
    have hcomment : t.kind ≠ .comment := by
      refine ht.not_comment_of_standsBefore hwhole (by rw [isTrivia, hc]; rfl) ?_
      exact standsBefore_of_append (hlast t (by simp))
    rw [List.append_assoc, List.singleton_append] at hscan hrun
    rw [textOf_append, List.append_assoc, textOf_cons, textOf_nil, List.append_nil] at htext'
    rw [bracketsOf_append, List.append_assoc, bracketsOf_cons, bracketsOf_nil, List.append_nil]
      at hsettle
    obtain ⟨behind, hbrackets, hjoined⟩ := exists_bracketsOf_joined hscan hscan' htext'
    have hclear := hclear t (by simp)
    rw [hctext] at hclear
    rw [hbrackets] at hsettle'
    exact not_settle_joined ht (Builder.not_mark_before_closer hrun hc) hcomment hb hjoined
      (brackets?_textOf hvs) hclear hsettle hsettle'

set_option maxRecDepth 20000 in
/-- The token before the closer goes on over a backslash here, and the literal that it was had only
    a blank in it. -/
theorem not_isBalanced_without_closer_before_blank :
    isBalanced "(x)\\ y".toList = true ∧ isBalanced "(x\\ y".toList = false := by
  have hbalanced : isBalanced "(x)\\ y".toList = true := by cbv
  have hts : tokenize "(x)\\ y".toList = .ok ([⟨.opener, ['('], 0⟩, ⟨.atom, ['x'], 1⟩] ++
      ⟨.closer, [')'], 2⟩ :: [⟨.char, ['\\', ' '], 3⟩, ⟨.atom, ['y'], 5⟩]) := by cbv
  have hjoined : ending ['x', '\\'] = .closed := by cbv
  have halone : ending ['\\'] = .literal .char := by cbv
  have hword : wordOf ['\\', ' ', 'y'] = ['\\'] := by decide +kernel
  have hbehind : behindWord ['\\', ' ', 'y'] = [' ', 'y'] := by decide +kernel
  refine ⟨hbalanced, not_isBalanced_without_closer hbalanced hts rfl ?_⟩
  rintro t ⟨⟩
  show ¬ MakesUp (ending (['x'] ++ wordOf ['\\', ' ', 'y'])) (ending (wordOf ['\\', ' ', 'y'])) [')']
    (behindWord ['\\', ' ', 'y'])
  rw [hword, hbehind, List.singleton_append, hjoined, halone]
  simp [MakesUp]

/-- Whether a source that is well formed stays so without one of its closers. -/
def HasSpareCloser (source : List Char) : Prop :=
  ∃ us c vs, tokenize source = .ok (us ++ c :: vs) ∧ c.kind = .closer ∧ isBalanced source = true ∧
    isBalanced (source.eraseIdx c.offset.toNat) = true

theorem hasSpareCloser_of_list {x : Char} (vs : List Token)
    (hts : tokenize source =
      .ok ([⟨.opener, ['('], 0⟩, ⟨.atom, [x], 1⟩] ++ ⟨.closer, [')'], 2⟩ :: vs))
    (hbalanced : isBalanced source = true) (hstill : isBalanced (source.eraseIdx 2) = true) :
    HasSpareCloser source := ⟨_, _, vs, hts, rfl, hbalanced, hstill⟩

set_option maxRecDepth 20000 in
/-- Each way in which a word makes up for a closer comes about: the closer is there again behind a
    literal that is none any more, an opener becomes a literal, a string or a comment opens, and a
    comment ends or begins with the word. -/
theorem hasSpareCloser_of_words :
    HasSpareCloser "(x)\\)".toList ∧ HasSpareCloser "(#)_\\()".toList ∧
      HasSpareCloser "(a)\\\"\")\";\"".toList ∧ HasSpareCloser "(#)_\\;)".toList ∧
      HasSpareCloser "(a)#!)".toList ∧ HasSpareCloser "(#)!(\n)".toList := by
  refine ⟨?_, ?_, ?_, ?_, ?_, ?_⟩
  · exact hasSpareCloser_of_list [⟨.char, ['\\', ')'], 3⟩] (by cbv) (by cbv) (by cbv)
  · exact hasSpareCloser_of_list
      [⟨.atom, ['_', '\\'], 3⟩, ⟨.opener, ['('], 5⟩, ⟨.closer, [')'], 6⟩]
      (by cbv) (by cbv) (by cbv)
  · exact hasSpareCloser_of_list
      [⟨.char, ['\\', '"'], 3⟩, ⟨.string, ['"', ')', '"'], 5⟩, ⟨.comment, [';', '"'], 8⟩]
      (by cbv) (by cbv) (by cbv)
  · exact hasSpareCloser_of_list [⟨.atom, ['_', '\\'], 3⟩, ⟨.comment, [';', ')'], 5⟩]
      (by cbv) (by cbv) (by cbv)
  · exact hasSpareCloser_of_list [⟨.comment, ['#', '!', ')'], 3⟩] (by cbv) (by cbv) (by cbv)
  · exact hasSpareCloser_of_list
      [⟨.atom, ['!'], 3⟩, ⟨.opener, ['('], 4⟩, ⟨.newline, ['\n'], 5⟩, ⟨.closer, [')'], 6⟩]
      (by cbv) (by cbv) (by cbv)

end Source

end FormEdit
