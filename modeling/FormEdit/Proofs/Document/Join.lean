import FormEdit.Proofs.Document.Grammar
import FormEdit.Proofs.Document.Span
import FormEdit.Proofs.Token.Splice

set_option autoImplicit false

/-! # Documents put one behind the other

Where the seam between two documents is clean, the text of both together is a document with the
forms of both (`Node.exists_isJoin`). The words of a document are those of the texts of its forms
(`Node.wordsOf_tokensOf`), so what is known of words holds of forms. -/

namespace FormEdit

namespace Node

/-! ## The first and the last token of a node -/

theorem Proper.exists_cons {n : Node} (h : n.Proper) :
    ∃ t ts, n.tokens = t :: ts ∧ t.isTrivia = n.isTrivia := by
  cases h with
  | @leaf t _ => exact ⟨t, [], rfl, rfl⟩
  | @delimited b o c cs opens _ _ _ _ =>
    exact ⟨o, _, tokens_delimited b o c cs, by rw [Token.isTrivia, opens]; rfl⟩
  | @marked m cs marks _ _ _ => exact ⟨m, _, tokens_marked m cs, by rw [Token.isTrivia, marks]; rfl⟩

theorem Proper.exists_concat {n : Node} (h : n.Proper) :
    ∃ ts t, n.tokens = ts ++ [t] ∧ t.isTrivia = n.isTrivia := by
  induction h with
  | @leaf t _ => exact ⟨[], t, rfl, rfl⟩
  | @delimited b o c cs _ _ closes _ _ _ =>
    refine ⟨o :: tokensOf cs, c, by rw [tokens_delimited, List.cons_append], ?_⟩
    rw [Token.isTrivia, closes]
    rfl
  | @marked m cs marks count last inside ih =>
    rcases List.eq_nil_or_concat cs with rfl | ⟨ls, l, rfl⟩
    · have := (Token.arity_pos_iff m).2 marks
      rw [← count] at this
      cases this
    · rw [List.concat_eq_append] at *
      obtain ⟨ts, t, htok, ht⟩ := ih l (by simp)
      refine ⟨m :: (tokensOf ls ++ ts), t, by simp [htok], ?_⟩
      rw [ht]
      exact last l (by simp)

/-- Trivia at the front of the tokens of proper nodes are nodes by themselves. -/
theorem split_of_trivia {ns : List Node} (h : ∀ n ∈ ns, n.Proper) {ts us : List Token}
    (htok : tokensOf ns = ts ++ us) (ht : ∀ t ∈ ts, t.isTrivia = true) :
    ∃ ms, ns = ts.map leaf ++ ms ∧ tokensOf ms = us := by
  induction ts generalizing ns with
  | nil => exact ⟨ns, rfl, htok⟩
  | cons t ts ih =>
    match ns, h, htok with
    | [], _, htok => cases htok
    | n :: ns, h, htok =>
      obtain ⟨u, us', hu, htriv⟩ := (h n (by simp)).exists_cons
      rw [tokensOf_cons, hu] at htok
      simp only [List.cons_append, List.cons.injEq] at htok
      obtain ⟨rfl, htok⟩ := htok
      have hn : n.isTrivia = true := by
        rw [← htriv]
        exact ht u (by simp)
      obtain ⟨v, rfl, -⟩ := Grammar.eq_leaf_of_isTrivia hn
      cases hu
      obtain ⟨ms, rfl, hms⟩ := ih (fun m hm => h m (by simp [hm])) htok
        fun w hw => ht w (by simp [hw])
      exact ⟨ms, rfl, hms⟩

theorem spans_leaves {ts : List Token} (h : ∀ t ∈ ts, t.isTrivia = true) (o : Int)
    (ns : List Node) :
    spans o (ts.map leaf ++ ns) = spans (o + (Token.textOf ts).length) ns := by
  have htriv : ∀ n ∈ ts.map leaf, n.isTrivia = true := by
    intro n hn
    obtain ⟨t, ht, rfl⟩ := List.mem_map.1 hn
    exact h t ht
  have htext : textOf (ts.map leaf) = Token.textOf ts := by
    induction ts with
    | nil => rfl
    | cons t ts ih =>
      rw [List.map_cons, textOf_cons, Token.textOf_cons, ih (fun u hu => h u (by simp [hu]))]
      · simp [text]
      · exact fun n hn => htriv n (by simp [hn])
  rw [spans_append, spans_trivia htriv, htext, List.nil_append]

/-! ## Joining -/

/-- How nodes are put behind others: both have their forms, and all tokens of the second but some
    trivia at its front are there, moved by a distance. -/
structure IsJoin (ns ms ls : List Node) : Prop where
  proper : ∀ l ∈ ls, l.Proper
  scan : Token.IsScan 0 (tokensOf ls)
  text : textOf ls = textOf ns ++ textOf ms
  spans : spans 0 ls = Node.spans 0 ns ++ Node.spans (textOf ns).length ms
  behind : ∃ us ts vs k, tokensOf ls = us ++ vs.map (Token.shift k) ∧ tokensOf ms = ts ++ vs ∧
    ∀ t ∈ ts, t.isTrivia = true

section Join

variable {o : Int} {ns ms : List Node}

/-- Behind nothing, nodes are only moved. -/
theorem isJoin_nil (hms : ∀ m ∈ ms, m.Proper) (hs' : Token.IsScan o (tokensOf ms)) :
    IsJoin [] ms (ms.map (shift (-o))) where
  proper := proper_map_shift hms _
  scan := by
    rw [tokensOf_map_shift]
    exact hs'.moved
  text := by simp
  spans := by
    rw [spans_map_shift]
    rfl
  behind := ⟨[], [], tokensOf ms, -o, by rw [tokensOf_map_shift, List.nil_append], rfl, by simp⟩

/-- Where the last token takes in nothing, the nodes stand side by side. -/
theorem isJoin_append {ts : List Token} {t : Token} (hns : ∀ n ∈ ns, n.Proper)
    (hms : ∀ m ∈ ms, m.Proper) (hlast : tokensOf ns = ts ++ [t])
    (hs : Token.IsScan 0 (tokensOf ns)) (hs' : Token.IsScan o (tokensOf ms))
    (ht : t.Takes (tokensOf ms) [] (tokensOf ms)) :
    IsJoin ns ms (ns ++ ms.map (shift ((textOf ns).length - o))) where
  proper := by
    intro l hl
    rcases List.mem_append.1 hl with hl | hl
    · exact hns l hl
    · exact proper_map_shift hms _ l hl
  scan := by
    rw [hlast] at hs
    have hscan := Token.isScan_join hs hs' ht
    rwa [Token.textOf_nil, Token.extend_nil, ← hlast, Int.zero_add, ← textOf,
      ← tokensOf_map_shift, ← tokensOf_append] at hscan
  text := by simp
  spans := by rw [spans_append, spans_map_shift, Int.zero_add]
  behind := ⟨tokensOf ns, [], tokensOf ms, _, by rw [tokensOf_append, tokensOf_map_shift], rfl,
    by simp⟩

/-- Where the last token is trivia and takes in trivia, they become one node. -/
theorem exists_isJoin_of_takes {t : Token} {taken rest : List Token}
    (hns : ∀ n ∈ ns ++ [leaf t], n.Proper) (hms : ∀ m ∈ ms, m.Proper)
    (hs : Token.IsScan 0 (tokensOf (ns ++ [leaf t]))) (hs' : Token.IsScan o (tokensOf ms))
    (ht : t.Takes (tokensOf ms) taken rest) (htriv : t.isTrivia = true) :
    ∃ ls, IsJoin (ns ++ [leaf t]) ms ls := by
  obtain ⟨ms', hsplit, hrest⟩ := split_of_trivia hms ht.eq ht.trivia
  have hleaf : tokensOf (ns ++ [leaf t]) = tokensOf ns ++ [t] := by simp
  have hscan := Token.isScan_join (hleaf ▸ hs) hs' ht
  generalize (0 : Int) + (Token.textOf (tokensOf ns ++ [t])).length - o = k at hscan
  have htok : tokensOf (ns ++ leaf (t.extend (Token.textOf taken)) :: ms'.map (shift k)) =
      tokensOf ns ++ [t.extend (Token.textOf taken)] ++ rest.map (Token.shift k) := by
    rw [tokensOf_append, tokensOf_cons, tokens_leaf, tokensOf_map_shift, hrest]
    simp
  have htext : textOf ms = Token.textOf taken ++ textOf ms' := by
    rw [textOf, ht.eq, Token.textOf_append, textOf, hrest]
  refine ⟨_, ?_, htok ▸ hscan, ?_, ?_, _, taken, rest, k, htok, ht.eq, ht.trivia⟩
  · intro l hl
    rcases List.mem_append.1 hl with hl | hl
    · exact hns l (by simp [hl])
    rcases List.mem_cons.1 hl with rfl | hl
    · exact .leaf (Grammar.standsAlone_of_isTrivia (t := t) htriv)
    · refine proper_map_shift (fun m hm => hms m ?_) _ l hl
      rw [hsplit]
      simp [hm]
  · rw [htext]
    simp [text, Token.extend]
  · have hlen : (0 : Int) + (textOf ns).length +
        (leaf (t.extend (Token.textOf taken))).text.length =
        (textOf (ns ++ [leaf t])).length + (Token.textOf taken).length := by
      simp [text, Token.extend]
      omega
    have hleaf : ∀ n ∈ [leaf t], n.isTrivia = true := by
      intro n hn
      rw [List.mem_singleton.1 hn]
      exact htriv
    rw [spans_append, spans, if_pos (show (leaf (t.extend _)).isTrivia = true from htriv),
      spans_map_shift, hlen, hsplit, spans_leaves ht.trivia, spans_append _ ns [leaf t],
      spans_trivia hleaf, List.append_nil]

theorem exists_isJoin (hns : ∀ n ∈ ns, n.Proper) (hms : ∀ m ∈ ms, m.Proper)
    (hs : Token.IsScan 0 (tokensOf ns)) (hs' : Token.IsScan o (tokensOf ms))
    (hc : Token.cleanSeam (tokensOf ns) (tokensOf ms) = true) : ∃ ls, IsJoin ns ms ls := by
  rcases List.eq_nil_or_concat ns with rfl | ⟨ns, n, rfl⟩
  · exact ⟨_, isJoin_nil hms hs'⟩
  rw [List.concat_eq_append] at *
  obtain ⟨ts, t, htok, htriv⟩ := (hns n (by simp)).exists_concat
  have hlast : tokensOf (ns ++ [n]) = tokensOf ns ++ ts ++ [t] := by simp [htok]
  obtain ⟨taken, rest, ht⟩ := Token.exists_takes_of_cleanSeam (hlast ▸ hs) hs' (hlast ▸ hc)
  cases htaken : taken with
  | nil =>
    subst htaken
    obtain rfl : tokensOf ms = rest := ht.eq
    exact ⟨_, isJoin_append hns hms hlast hs hs' ht⟩
  | cons u us =>
    -- What takes in anything is trivia, and trivia is a node by itself.
    have hself := ht.self (by simp [htaken])
    obtain ⟨v, rfl, -⟩ := Grammar.eq_leaf_of_isTrivia (htriv.symm.trans hself)
    obtain ⟨rfl, rfl⟩ : ts = [] ∧ t = v := by
      cases ts with
      | nil => simpa using htok.symm
      | cons w ws => simp at htok
    exact exists_isJoin_of_takes hns hms hs hs' ht hself

end Join

/-- The last token behind a join is that of the second nodes, if there is a form among them. -/
theorem IsJoin.getLast? {ns ms ls : List Node} (h : IsJoin ns ms ls) {m : Node} (hm : m ∈ ms)
    (hp : m.Proper) (ht : m.isTrivia = false) :
    ∃ k, (tokensOf ls).getLast? = (tokensOf ms).getLast?.map (Token.shift k) := by
  obtain ⟨us, ts, vs, k, hls, hms, hts⟩ := h.behind
  rw [hls, hms]
  rcases List.eq_nil_or_concat vs with rfl | ⟨vs, v, rfl⟩
  · -- Then there would be nothing but trivia.
    obtain ⟨t, ts', htok, htriv⟩ := hp.exists_cons
    obtain ⟨as, bs, rfl⟩ := List.append_of_mem hm
    rw [List.append_nil] at hms
    have hmem : t ∈ ts := by
      rw [← hms]
      simp [htok]
    rw [ht, hts t hmem] at htriv
    cases htriv
  · refine ⟨k, ?_⟩
    rw [List.concat_eq_append, List.map_append, List.map_singleton, ← List.append_assoc,
      ← List.append_assoc, List.getLast?_concat, List.getLast?_concat, Option.map_some]

/-! ## Seams between forms with their texts -/

/-- Each of the nodes of a scan is scanned by itself. -/
theorem exists_isScan {o : Int} {ns : List Node} (h : Token.IsScan o (tokensOf ns)) :
    ∀ n ∈ ns, ∃ o, Token.IsScan o n.tokens := by
  intro n hn
  obtain ⟨as, bs, rfl⟩ := List.append_of_mem hn
  rw [tokensOf_append, tokensOf_cons, ← List.append_assoc] at h
  exact ⟨_, h.of_infix⟩

/-- The words of nodes are those of the texts of their forms. -/
theorem wordsOf_tokensOf {ns : List Node} (h : ∀ n ∈ ns, ∃ o, Token.IsScan o n.tokens) :
    Token.wordsOf (tokensOf ns) =
      ((semantic ns).map text).flatMap fun s => Token.wordsOf (scan s).tokens := by
  induction ns with
  | nil => rfl
  | cons n ns ih =>
    rw [tokensOf_cons, Token.wordsOf_append, ih fun m hm => h m (by simp [hm]), semantic_cons]
    split
    · next hn =>
      obtain ⟨t, rfl, ht⟩ := Grammar.eq_leaf_of_isTrivia hn
      rw [tokens_leaf, Token.wordsOf_trivia (by simpa using ht), List.nil_append]
    · obtain ⟨o, hscan⟩ := h n (by simp)
      have htext := Token.scan_textOf hscan.moved
      rw [Token.textOf_map_shift] at htext
      rw [List.map_cons, List.flatMap_cons, text, htext, Token.wordsOf_map_shift]

/-- Nodes with a form among them have a word. -/
theorem wordsOf_ne_nil {ns : List Node} (h : ∀ n ∈ ns, n.Proper) (hne : semantic ns ≠ []) :
    Token.wordsOf (tokensOf ns) ≠ [] := by
  obtain ⟨n, hn⟩ := List.exists_mem_of_ne_nil _ hne
  obtain ⟨hmem, htriv⟩ := List.mem_filter.1 hn
  obtain ⟨t, ts, htok, ht⟩ := (h n hmem).exists_cons
  obtain ⟨as, bs, rfl⟩ := List.append_of_mem hmem
  have hsolid : ¬ t.isTrivia = true := by
    rw [ht]
    simpa using htriv
  rw [tokensOf_append, tokensOf_cons, htok, List.cons_append, Token.wordsOf_append,
    Token.wordsOf_cons, if_neg hsolid]
  simp

/-- Nodes without a form are trivia. -/
theorem isTrivia_of_semantic {ns : List Node} (h : semantic ns = []) :
    ∀ t ∈ tokensOf ns, t.isTrivia = true := by
  induction ns with
  | nil => simp
  | cons n ns ih =>
    rw [semantic_cons] at h
    split at h
    · next hn =>
      obtain ⟨t, rfl, ht⟩ := Grammar.eq_leaf_of_isTrivia hn
      simpa [ht] using ih h
    · cases h

/-- An atom at the front of nodes with one form is the form. -/
theorem isTrivia_behind_atom {ns : List Node} {g : Node} (h : ∀ n ∈ ns, n.Proper)
    (hone : semantic ns = [g]) {t : Token} {ts : List Token} (htok : tokensOf ns = t :: ts)
    (hk : t.kind = .atom) : ∀ u ∈ ts, u.isTrivia = true := by
  cases ns with
  | nil => cases htok
  | cons n ns =>
    have hn : n = leaf t := by
      rw [tokensOf_cons] at htok
      cases h n (by simp) with
      | leaf _ => rw [(List.cons.inj htok).1]
      | @delimited b o c cs opens _ _ _ _ =>
        rw [tokens_delimited] at htok
        rw [(List.cons.inj htok).1, hk] at opens
        cases opens
      | @marked m cs marks _ _ _ =>
        rw [tokens_marked] at htok
        rw [(List.cons.inj htok).1, hk] at marks
        cases marks
    subst hn
    have hsolid : (leaf t).isTrivia = false := by
      simp [isTrivia, Token.isTrivia, hk, TokenKind.isTrivia]
    rw [semantic_cons, if_neg (by simp [hsolid])] at hone
    obtain rfl : tokensOf ns = ts := by simpa using htok
    exact isTrivia_of_semantic (List.cons.inj hone).2

end Node

end FormEdit
