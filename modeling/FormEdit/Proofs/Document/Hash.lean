import FormEdit.Proofs.Document.Join
import FormEdit.Proofs.Document.Replace
import FormEdit.Proofs.Token.Hash

set_option autoImplicit false

/-! # A list in the place of a top-level form

A list that takes the place of a top-level form stays apart from what is around it, so the document
reads as it is (`Document.readable_list`), unless an atom `#` stands directly before the place. Then
the form is a vector, `#` and the list are read as one form, and the document has a form less
(`Document.exists_readable_behind_hash`). -/

namespace FormEdit

namespace Node

/-- A form may take the place of the atom that ends another one. -/
theorem Proper.exists_exchange_last {n : Node} (h : n.Proper) {ts : List Token} {t : Token}
    (htok : n.tokens = ts ++ [t]) (ht : t.kind = .atom) {m : Node} (hm : m.Proper)
    (hsem : m.isTrivia = false) :
    ∃ k : Node, k.Proper ∧ k.isTrivia = false ∧ k.tokens = ts ++ m.tokens := by
  induction h generalizing ts with
  | leaf alone =>
    obtain rfl : ts = [] := by
      have hlen := congrArg List.length htok
      exact List.eq_nil_of_length_eq_zero (by simpa using hlen.symm)
    exact ⟨m, hm, hsem, rfl⟩
  | @delimited b o c cs opens opening closes closing inside ih =>
    -- A bracketed form ends with its closer.
    have hlast : (Node.delimited b o cs c).tokens = (o :: tokensOf cs) ++ [c] := by simp
    rw [hlast] at htok
    obtain ⟨-, hc⟩ := List.append_inj' htok rfl
    cases hc
    rw [ht] at closes
    cases closes
  | @marked mark cs marks count last inside ih =>
    rcases List.eq_nil_or_concat cs with rfl | ⟨ls, l, rfl⟩
    · have hpos := (Token.arity_pos_iff mark).2 marks
      rw [← count] at hpos
      cases hpos
    · rw [List.concat_eq_append] at *
      have hl : l.isTrivia = false := last l (by simp)
      obtain ⟨us, u, hu, -⟩ := (inside l (by simp)).exists_concat
      rw [tokens_marked, tokensOf_append, tokensOf_cons, tokensOf_nil, List.append_nil, hu,
        ← List.append_assoc, ← List.cons_append] at htok
      obtain ⟨hts, htu⟩ := List.append_inj' htok rfl
      cases htu
      obtain ⟨k, hk, hktriv, hktok⟩ := ih l (by simp) hu
      have hflags : (ls ++ [k]).map isTrivia = (ls ++ [l]).map isTrivia := by
        simp [hktriv, hl]
      refine ⟨.marked mark (ls ++ [k]), .marked marks ((length_semantic_congr hflags).trans count)
        (by simpa using hktriv) (fun n hn => ?_), rfl, ?_⟩
      · rcases List.mem_append.1 hn with hn | hn
        · exact inside n (by simp [hn])
        · rw [List.mem_singleton.1 hn]
          exact hk
      · rw [tokens_marked, tokensOf_append, tokensOf_cons, tokensOf_nil, List.append_nil, hktok,
          ← List.append_assoc, ← List.cons_append, hts]

/-- Only a vector stands directly behind an atom `#` without becoming one with it. -/
theorem Proper.eq_vector_of_hash {n : Node} {o : Int} {t : Token} (h : n.Proper)
    (hscan : Token.IsScan o n.tokens) (hsem : n.isTrivia = false) (ht : t.IsHash)
    (hb : t.StandsBefore n.text) : ∃ o cs c, n = .delimited .vector o cs c := by
  obtain ⟨u, us, htok, htriv⟩ := h.exists_cons
  have hu : u.Whole := hscan.whole u (by simp [htok])
  obtain ⟨x, s, hx, -⟩ := id hu
  obtain ⟨hdel, hcurly, hround, hquote⟩ := ht.isDelimiter (hb x (by simp [text, htok, hx]))
  have hbracket := hu.bracket_of_isDelimiter (htriv.trans hsem) hx hdel hcurly hround hquote
  cases h with
  | leaf alone =>
    cases htok
    rcases hbracket with hk | ⟨hk, -⟩ <;> rw [hk] at alone <;> cases alone
  | @delimited b o c cs opens opening closes closing inside =>
    rw [tokens_delimited] at htok
    cases htok
    rcases hbracket with hk | ⟨-, htext⟩
    · rw [opens] at hk
      cases hk
    · rw [opening] at htext
      cases b <;> cases htext
      exact ⟨_, _, _, rfl⟩
  | marked marks count last inside =>
    rw [tokens_marked] at htok
    cases htok
    rcases hbracket with hk | ⟨hk, -⟩ <;> rw [marks] at hk <;> cases hk

end Node

namespace Document

variable {source w : List Char} {d : Document} {i : Nat} {n : Node} {o c : Token}
  {cs : List Node}

/-- Whether the top-level node with index `i` is written directly behind an atom `#`, be that a
    top-level form or the last one inside it. -/
def BehindHash (d : Document) (i : Nat) : Prop :=
  ∃ t ∈ (Node.tokensOf (d.nodes.take i)).getLast?, t.IsHash

/-- The nodes around a top-level node that has others put in its place. -/
theorem nodes_splice_top (d : Document) (i : Nat) (ms : List Node) :
    (d.splice i [] ms).nodes = d.nodes.take i ++ (ms ++ d.nodes.drop (i + 1)) := rfl

/-- The tokens before a top-level form stay apart from it. -/
theorem standsBefore_top (hd : parse source = .ok d) (hi : d.nodes[i]? = some n) :
    ∀ t ∈ (Node.tokensOf (d.nodes.take i)).getLast?, t.Whole ∧ t.StandsBefore n.text := by
  obtain ⟨-, -, hscan, -⟩ := parse_eq_ok_iff.1 hd
  rw [Node.tokensOf_eq_of_getElem? hi] at hscan
  obtain ⟨hbefore, -, hseam⟩ := Token.isScan_append.1 (Token.isScan_append.1 hscan).1
  intro t ht
  exact ⟨hbefore.whole t (List.mem_of_getLast? ht), hseam t ht⟩

/-- A form directly behind an atom `#` is a vector. -/
theorem BehindHash.eq_vector (h : d.BehindHash i) (hd : parse source = .ok d)
    (hi : d.nodes[i]? = some n) (hn : n.isTrivia = false) :
    ∃ o cs c, n = .delimited .vector o cs c := by
  obtain ⟨t, ht, hhash⟩ := h
  obtain ⟨-, -, hscan, hproper⟩ := parse_eq_ok_iff.1 hd
  rw [Node.tokensOf_eq_of_getElem? hi] at hscan
  exact (hproper n (List.mem_of_getElem? hi)).eq_vector_of_hash hscan.of_infix hn hhash
    (standsBefore_top hd hi t ht).2

/-! ## A list that stays apart -/

/-- A text that is read as one list is that list, which starts with `(`. -/
theorem list_of_parse (hw : parse w = .ok ⟨[.delimited .list o cs c], w⟩) :
    (Node.delimited .list o cs c).Proper ∧
      Token.IsScan 0 (Node.delimited .list o cs c).tokens ∧
      (Node.delimited .list o cs c).text = w ∧ o.text = ['('] := by
  obtain ⟨-, htext, hscan, hproper⟩ := parse_eq_ok_iff.1 hw
  have hlist := hproper _ (List.mem_singleton_self _)
  refine ⟨hlist, by simpa using hscan, by simpa [text, Node.textOf, Node.text] using htext, ?_⟩
  cases hlist with
  | delimited opens opening closes closing inside => exact opening

/-- With a list in the place of a top-level form that no atom `#` stands before, the document reads
    as it is. -/
theorem readable_list (hd : parse source = .ok d) (hi : d.nodes[i]? = some n)
    (hn : n.isTrivia = false) (hw : parse w = .ok ⟨[.delimited .list o cs c], w⟩)
    (hhash : ¬d.BehindHash i) : (d.splice i [] [.delimited .list o cs c]).Readable := by
  obtain ⟨hlist, hlistscan, htext, hopen⟩ := list_of_parse hw
  obtain ⟨-, -, hscan, hproper⟩ := parse_eq_ok_iff.1 hd
  obtain ⟨u, us, hu, htriv⟩ := (hproper n (List.mem_of_getElem? hi)).exists_cons
  have huw : u.Whole := by
    rw [Node.tokensOf_eq_of_getElem? hi] at hscan
    exact hscan.whole u (by simp [hu])
  obtain ⟨r, hr⟩ : ∃ r, (Node.delimited .list o cs c).text = '(' :: r := by
    rw [Node.text, Node.tokens_delimited, Token.textOf_cons, hopen]
    exact ⟨_, rfl⟩
  have hnode : d.node? i [] = some n := hi
  refine (Readable.of_parse hd).splice hnode hlist hlistscan hn.symm
    (Node.tokensOf_eq_of_getElem? hi) (fun ms => ?_) (fun t ht => ?_)
    (hlist.standsBefore_closed hlistscan _)
  · rw [nodes_splice_top, Node.tokensOf_append, Node.tokensOf_append, List.append_assoc]
  · obtain ⟨htw, hb⟩ := standsBefore_top hd hi t ht
    rw [Node.text, hu, Token.textOf_cons] at hb
    rw [hr]
    exact htw.standsBefore_paren huw (htriv.trans hn) (Token.standsBefore_of_append hb)
      (fun h => hhash ⟨t, ht, h⟩) r

/-! ## A list that `#` takes in -/

/-- The opener of a list that `#` stands before. -/
def hashOpener : Token := ⟨.opener, ['#', '('], -1⟩

theorem whole_hashOpener : hashOpener.Whole := ⟨'#', ['('], rfl, rfl⟩

theorem standsBefore_hashOpener (r : List Char) : hashOpener.StandsBefore r := by
  intro x _
  rfl

/-- A list with `#` before it is one form as well, which starts one character further left. -/
theorem fn_of_list (hw : parse w = .ok ⟨[.delimited .list o cs c], w⟩) :
    (Node.delimited .fn hashOpener cs c).Proper ∧
      Token.IsScan (-1) (Node.delimited .fn hashOpener cs c).tokens ∧
      (Node.delimited .fn hashOpener cs c).text = '#' :: w := by
  obtain ⟨hlist, hscan, htext, hopen⟩ := list_of_parse hw
  rw [Node.tokens_delimited] at hscan ⊢
  obtain ⟨-, -, -, hrest⟩ := hscan
  rw [hopen] at hrest
  refine ⟨?_, ⟨rfl, whole_hashOpener, standsBefore_hashOpener _, hrest⟩, ?_⟩
  · cases hlist with
    | delimited opens opening closes closing inside => exact .delimited rfl rfl closes closing inside
  · rw [← htext, Node.text, Node.text, Node.tokens_delimited, Node.tokens_delimited,
      Token.textOf_cons, Token.textOf_cons, hopen]
    rfl

/-- With a list in the place of a form directly behind an atom `#`, the text reads as a document with
    one form less. -/
theorem exists_readable_behind_hash (hd : parse source = .ok d) (hi : d.nodes[i]? = some n)
    (hn : n.isTrivia = false) (hw : parse w = .ok ⟨[.delimited .list o cs c], w⟩)
    (h : d.BehindHash i) :
    ∃ e : Document, e.Readable ∧ e.forms.length + 1 = d.forms.length ∧
      e.text = Node.textOf (d.nodes.take i) ++ (w ++ Node.textOf (d.nodes.drop (i + 1))) := by
  obtain ⟨t, ht, hkind, hhash⟩ := h
  obtain ⟨-, -, hscan, hproper⟩ := parse_eq_ok_iff.1 hd
  have hsplit := Node.eq_take_cons_drop hi
  rcases List.eq_nil_or_concat (d.nodes.take i) with hnil | ⟨ls, l, hls⟩
  · rw [hnil] at ht
    cases ht
  rw [List.concat_eq_append] at hls
  have hl : l.Proper := hproper l (by rw [hsplit, hls]; simp)
  obtain ⟨us, u, hu, htriv⟩ := hl.exists_concat
  have hbefore : Node.tokensOf (d.nodes.take i) = Node.tokensOf ls ++ us ++ [u] := by
    rw [hls, Node.tokensOf_append, Node.tokensOf_cons, Node.tokensOf_nil, List.append_nil, hu,
      List.append_assoc]
  rw [hbefore, List.getLast?_concat, Option.mem_some_iff] at ht
  subst ht
  obtain ⟨hfn, hfnscan, hfntext⟩ := fn_of_list hw
  obtain ⟨k, hk, hktriv, hktok⟩ := hl.exists_exchange_last hu hkind hfn rfl
  have hfnne : (Node.delimited .fn hashOpener cs c).tokens ≠ [] := by simp
  -- The form before the place and the one in it are one form now.
  refine ⟨⟨ls ++ k :: d.nodes.drop (i + 1), []⟩, ⟨?_, fun m hm => ?_⟩, ?_, ?_⟩
  · rw [Node.tokensOf_eq_of_getElem? hi, hbefore, List.append_assoc (Node.tokensOf ls ++ us)] at hscan
    have hseam : ∀ v ∈ (Node.tokensOf ls ++ us).getLast?,
        v.StandsBefore (Node.delimited .fn hashOpener cs c).text := by
      intro v hv x hx
      have hstands := (Token.isScan_append.1 (Token.isScan_append.1 hscan).1).2.2 v hv
      refine hstands x ?_
      rw [hfntext] at hx
      rw [Token.textOf_append, Token.textOf_cons, hhash]
      exact hx
    have hnew := hscan.exchange hfnscan hfnne hseam (hfn.standsBefore_closed hfnscan _)
    rw [Node.tokensOf_append, Node.tokensOf_cons, hktok]
    simpa only [List.append_assoc] using hnew
  · rcases List.mem_append.1 hm with hm | hm
    · exact hproper m (by rw [hsplit, hls]; simp [hm])
    rcases List.mem_cons.1 hm with rfl | hm
    · exact hk
    · exact hproper m (List.mem_of_mem_drop hm)
  · have hlsem : l.isTrivia = false := by
      rw [← htriv, Token.isTrivia, hkind]
      rfl
    have hforms : d.forms = Node.semantic (ls ++ [l] ++ n :: d.nodes.drop (i + 1)) := by
      rw [forms, ← hls, ← hsplit]
    rw [hforms]
    simp [forms, Node.semantic_cons, hktriv, hlsem, hn]
    omega
  · show Node.textOf (ls ++ k :: d.nodes.drop (i + 1)) = _
    have hktext : k.text = Token.textOf us ++ '#' :: w := by
      rw [Node.text, hktok, Token.textOf_append, ← hfntext]
      rfl
    have hltext : Node.textOf (d.nodes.take i) = Node.textOf ls ++ (Token.textOf us ++ ['#']) := by
      rw [Node.textOf, hbefore, Token.textOf_append, Token.textOf_append, Token.textOf_cons, hhash,
        Token.textOf_nil, List.append_assoc]
      rfl
    rw [hltext, Node.textOf_append, Node.textOf_cons, hktext]
    simp only [List.append_assoc, List.cons_append, List.nil_append]

end Document

end FormEdit
