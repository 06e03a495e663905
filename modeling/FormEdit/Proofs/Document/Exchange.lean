import FormEdit.Proofs.Document.Place

set_option autoImplicit false

/-! # Nodes exchanged inside a document

When the node at a place is exchanged for others, the tokens before it and behind it stay
(`Document.exists_tokensOf_splice`), and what encloses the place stays proper as long as a form takes the
place of a form (`Document.proper_splice`). Only the offsets are those of the old tokens; laid out
anew, the nodes are the document of their text wherever the new tokens meet the old ones as scanned
tokens do (`Document.Readable.splice`, `Document.parse_splice`). -/

namespace FormEdit

/-! ## Tokens and nodes laid out -/

namespace Token

/-- Tokens put one behind the other from the offset `o` on. -/
def laid (o : Int) : List Token → List Token
  | [] => []
  | t :: ts => { t with offset := o } :: laid (o + t.text.length) ts

theorem laid_append (o : Int) (ts us : List Token) :
    laid o (ts ++ us) = laid o ts ++ laid (o + (textOf ts).length) us := by
  induction ts generalizing o with
  | nil => simp [laid]
  | cons t ts ih => rw [List.cons_append, laid, laid, ih, offset_textOf_cons, List.cons_append]

@[simp] theorem textOf_laid (o : Int) (ts : List Token) : textOf (laid o ts) = textOf ts := by
  induction ts generalizing o with
  | nil => rfl
  | cons t ts ih => rw [laid, textOf_cons, textOf_cons, ih]

/-- Where tokens were before they are laid out does not matter. -/
@[simp] theorem laid_laid (o k : Int) (ts : List Token) : laid o (laid k ts) = laid o ts := by
  induction ts generalizing o k with
  | nil => rfl
  | cons t ts ih => rw [laid, laid, laid, ih]

theorem IsScan.laid {o : Int} {ts : List Token} (h : IsScan o ts) (k : Int) :
    IsScan k (laid k ts) := by
  induction ts generalizing o k with
  | nil => trivial
  | cons t ts ih =>
    obtain ⟨-, hw, hb, hs⟩ := h
    refine ⟨rfl, hw, ?_, ih hs _⟩
    rw [textOf_laid]
    exact hb

theorem standsBefore_laid {o : Int} {ts : List Token} {r : List Char} :
    (∀ t ∈ (laid o ts).getLast?, t.StandsBefore r) ↔ ∀ t ∈ ts.getLast?, t.StandsBefore r := by
  induction ts generalizing o with
  | nil => rfl
  | cons t ts ih =>
    cases ts with
    | nil => simp [laid, StandsBefore, absorbs]
    | cons u us =>
      rw [List.getLast?_cons_cons, ← ih (o := o + t.text.length)]
      simp only [laid, List.getLast?_cons_cons]

/-- A run of a scan may be exchanged for another that its neighbours stay apart from. -/
theorem IsScan.exchange {o o' : Int} {us ts ts' vs : List Token} (h : IsScan o (us ++ ts ++ vs))
    (h' : IsScan o' ts') (hne : ts' ≠ []) (hbefore : ∀ t ∈ us.getLast?, t.StandsBefore (textOf ts'))
    (hbehind : ∀ t ∈ ts'.getLast?, t.StandsBefore (textOf vs)) :
    IsScan 0 (Token.laid 0 (us ++ ts' ++ vs)) := by
  obtain ⟨huts, hvs, -⟩ := isScan_append.1 h
  obtain ⟨hus, -, -⟩ := isScan_append.1 huts
  have hlast : ∀ t ∈ (us ++ ts').getLast?, t.StandsBefore (textOf vs) := by
    intro t ht
    rw [List.getLast?_append_of_ne_nil _ hne] at ht
    exact hbehind t ht
  rw [laid_append, isScan_append, standsBefore_laid, textOf_laid, textOf_laid]
  refine ⟨?_, hvs.laid _, hlast⟩
  rw [laid_append, isScan_append, standsBefore_laid, textOf_laid, textOf_laid]
  exact ⟨hus.laid _, h'.laid _, hbefore⟩

end Token

namespace Node

mutual

/-- A node with its tokens put one behind the other from the offset `o` on. -/
def laid (o : Int) : Node → Node
  | leaf t => leaf { t with offset := o }
  | delimited b t cs c =>
    delimited b { t with offset := o } (laidAll (o + t.text.length) cs)
      { c with offset := o + t.text.length + (textOf cs).length }
  | marked m cs => marked { m with offset := o } (laidAll (o + m.text.length) cs)

/-- Nodes with their tokens put one behind the other from the offset `o` on. -/
def laidAll (o : Int) : List Node → List Node
  | [] => []
  | n :: ns => n.laid o :: laidAll (o + n.text.length) ns

end

mutual

theorem tokens_laid (o : Int) (n : Node) : (n.laid o).tokens = Token.laid o n.tokens := by
  match n with
  | .leaf t => rfl
  | .delimited b t cs c =>
    rw [laid, tokens_delimited, tokens_delimited, Token.laid, Token.laid_append, tokensOf_laidAll]
    rfl
  | .marked m cs => rw [laid, tokens_marked, tokens_marked, Token.laid, tokensOf_laidAll]

theorem tokensOf_laidAll (o : Int) (ns : List Node) :
    tokensOf (laidAll o ns) = Token.laid o (tokensOf ns) := by
  match ns with
  | [] => rfl
  | n :: ns =>
    rw [laidAll, tokensOf_cons, tokensOf_cons, Token.laid_append, tokens_laid, tokensOf_laidAll]
    rfl

end

@[simp] theorem textOf_laidAll (o : Int) (ns : List Node) : textOf (laidAll o ns) = textOf ns := by
  rw [textOf, tokensOf_laidAll, Token.textOf_laid, textOf]

@[simp] theorem isTrivia_laid (o : Int) (n : Node) : (n.laid o).isTrivia = n.isTrivia := by
  cases n <;> rfl

theorem map_isTrivia_laidAll (o : Int) (ns : List Node) :
    (laidAll o ns).map isTrivia = ns.map isTrivia := by
  induction ns generalizing o with
  | nil => rfl
  | cons n ns ih => rw [laidAll, List.map_cons, List.map_cons, ih, isTrivia_laid]

theorem exists_of_mem_laidAll {o : Int} {ns : List Node} {m : Node} (h : m ∈ laidAll o ns) :
    ∃ n ∈ ns, ∃ k, m = n.laid k := by
  induction ns generalizing o with
  | nil => cases h
  | cons n ns ih =>
    rcases List.mem_cons.1 h with rfl | h
    · exact ⟨n, by simp, o, rfl⟩
    · obtain ⟨n', hn', k, rfl⟩ := ih h
      exact ⟨n', by simp [hn'], k, rfl⟩

/-! ## What a form needs to know of its children -/

/-- How many forms there are among nodes depends on which of them are trivia. -/
theorem length_semantic_congr {ns ms : List Node} (h : ns.map isTrivia = ms.map isTrivia) :
    (semantic ns).length = (semantic ms).length := by
  have hcount : ∀ ls : List Node, (semantic ls).length = (ls.map isTrivia).count false := by
    intro ls
    induction ls with
    | nil => rfl
    | cons l ls ih =>
      rw [semantic_cons, List.map_cons, List.count_cons, ← ih]
      cases l.isTrivia <;> rfl
  rw [hcount, hcount, h]

theorem getLast?_isTrivia_congr {ns ms : List Node} (h : ns.map isTrivia = ms.map isTrivia)
    (hms : ∀ m ∈ ms.getLast?, m.isTrivia = false) : ∀ n ∈ ns.getLast?, n.isTrivia = false := by
  intro n hn
  have hlast : (ms.map isTrivia).getLast? = some n.isTrivia := by
    rw [← h, List.getLast?_map, hn, Option.map_some]
  rw [List.getLast?_map] at hlast
  obtain ⟨m, hm, hmn⟩ := Option.map_eq_some_iff.1 hlast
  rw [← hmn]
  exact hms m hm

theorem Proper.laid {n : Node} (h : n.Proper) (o : Int) : (n.laid o).Proper := by
  induction h generalizing o with
  | leaf alone => exact .leaf alone
  | delimited opens opening closes closing inside ih =>
    refine .delimited opens opening closes closing fun m hm => ?_
    obtain ⟨n, hn, k, rfl⟩ := exists_of_mem_laidAll hm
    exact ih n hn k
  | @marked m cs marks count last inside ih =>
    have hflags := map_isTrivia_laidAll (o + m.text.length) cs
    refine .marked marks ((length_semantic_congr hflags).trans count)
      (getLast?_isTrivia_congr hflags last) fun m hm => ?_
    obtain ⟨n, hn, k, rfl⟩ := exists_of_mem_laidAll hm
    exact ih n hn k

theorem proper_laidAll {ns : List Node} (h : ∀ n ∈ ns, n.Proper) (o : Int) :
    ∀ m ∈ laidAll o ns, m.Proper := by
  intro m hm
  obtain ⟨n, hn, k, rfl⟩ := exists_of_mem_laidAll hm
  exact (h n hn).laid k

@[simp] theorem isTrivia_withChildren (cs : List Node) (n : Node) :
    (n.withChildren cs).isTrivia = n.isTrivia := by
  cases n <;> rfl

/-- A form stays proper with other proper children of which the same are trivia. -/
theorem Proper.withChildren {n : Node} (h : n.Proper) {cs : List Node} (hcs : ∀ c ∈ cs, c.Proper)
    (hflags : cs.map isTrivia = n.children.map isTrivia) : (n.withChildren cs).Proper := by
  cases h with
  | leaf alone => exact .leaf alone
  | delimited opens opening closes closing _ => exact .delimited opens opening closes closing hcs
  | marked marks count last _ =>
    exact .marked marks ((length_semantic_congr hflags).trans count)
      (getLast?_isTrivia_congr hflags last) hcs

/-- Other children leave the tokens of a form around them as they are. A single token has no
    children to exchange. -/
theorem exists_tokens_withChildren {n : Node} (h : n.children ≠ []) :
    ∃ us vs, n.tokens = us ++ tokensOf n.children ++ vs ∧
      ∀ cs, (n.withChildren cs).tokens = us ++ tokensOf cs ++ vs := by
  match n, h with
  | .leaf t, h => exact absurd rfl h
  | .delimited b o cs c, _ =>
    exact ⟨[o], [c], by simp [children], fun cs' => by simp [Node.withChildren]⟩
  | .marked m cs, _ => exact ⟨[m], [], by simp [children], fun cs' => by simp [Node.withChildren]⟩

theorem set_eq_take_cons_drop {ns : List Node} {i : Nat} {n : Node} (h : ns[i]? = some n)
    (m : Node) : ns.set i m = ns.take i ++ m :: ns.drop (i + 1) := by
  obtain ⟨hi, -⟩ := List.getElem?_eq_some_iff.1 h
  rw [List.set_eq_take_append_cons_drop, if_pos hi]

end Node

namespace Document

variable {d : Document} {i : Nat} {up : Trail} {n : Node}

/-! ## Exchanged children -/

/-- Exchanging the children at a place leaves the tokens around them as they are. -/
theorem exists_tokensOf_exchange (h : d.childrenAt up ≠ []) :
    ∃ us vs, Node.tokensOf d.nodes = us ++ Node.tokensOf (d.childrenAt up) ++ vs ∧
      ∀ cs, Node.tokensOf (d.exchange up cs) = us ++ Node.tokensOf cs ++ vs := by
  induction up with
  | nil => exact ⟨[], [], by simp [childrenAt], fun cs => by simp [exchange]⟩
  | cons j up ih =>
    cases hm : (d.childrenAt up)[j]? with
    | none => simp [childrenAt, hm] at h
    | some m =>
      have hcs : d.childrenAt (j :: up) = m.children := by rw [childrenAt, hm]
      obtain ⟨us, vs, htok, hex⟩ := ih (childrenAt_ne_nil hm)
      rw [hcs] at h
      obtain ⟨us', vs', hmtok, hmex⟩ := Node.exists_tokens_withChildren h
      have hnode : d.node? j up = some m := hm
      refine ⟨us ++ (Node.tokensOf ((d.childrenAt up).take j) ++ us'),
        vs' ++ Node.tokensOf ((d.childrenAt up).drop (j + 1)) ++ vs, ?_, fun cs => ?_⟩
      · rw [htok, Node.tokensOf_eq_of_getElem? hm, hmtok, hcs]
        simp only [List.append_assoc]
      · rw [exchange, hnode]
        simp only
        rw [hex, Node.set_eq_take_cons_drop hm, Node.tokensOf_append, Node.tokensOf_cons, hmex]
        simp only [List.append_assoc]

theorem proper_exchange (hd : ∀ n ∈ d.nodes, n.Proper) {cs : List Node}
    (hcs : ∀ c ∈ cs, c.Proper)
    (hflags : cs.map Node.isTrivia = (d.childrenAt up).map Node.isTrivia) :
    ∀ n ∈ d.exchange up cs, n.Proper := by
  induction up generalizing cs with
  | nil => exact hcs
  | cons j up ih =>
    rw [exchange]
    split
    · next m hm =>
      have hm : (d.childrenAt up)[j]? = some m := hm
      have hup := proper_childrenAt hd up
      have hcs' : d.childrenAt (j :: up) = m.children := by rw [childrenAt, hm]
      rw [hcs'] at hflags
      refine ih (fun c hc => ?_) ?_
      · rcases List.mem_or_eq_of_mem_set hc with hc | rfl
        · exact hup c hc
        · exact (hup m (List.mem_of_getElem? hm)).withChildren hcs hflags
      · -- The form itself is no trivia, before and after.
        conv_rhs => rw [Node.eq_take_cons_drop hm]
        rw [Node.set_eq_take_cons_drop hm]
        simp only [List.map_append, List.map_cons, Node.isTrivia_withChildren]
    · exact hd

/-! ## An exchanged node -/

/-- Exchanging a node leaves the tokens before it and behind it as they are. -/
theorem exists_tokensOf_splice (h : d.node? i up = some n) :
    ∃ us vs, Node.tokensOf d.nodes = us ++ n.tokens ++ vs ∧
      ∀ ms, Node.tokensOf (d.splice i up ms).nodes = us ++ Node.tokensOf ms ++ vs := by
  have hi : (d.childrenAt up)[i]? = some n := h
  obtain ⟨us, vs, htok, hex⟩ := exists_tokensOf_exchange (childrenAt_ne_nil h)
  refine ⟨us ++ Node.tokensOf ((d.childrenAt up).take i),
    Node.tokensOf ((d.childrenAt up).drop (i + 1)) ++ vs, ?_, fun ms => ?_⟩
  · rw [htok, Node.tokensOf_eq_of_getElem? hi]
    simp only [List.append_assoc]
  · rw [splice, hex, Node.tokensOf_append, Node.tokensOf_append]
    simp only [List.append_assoc]

/-- A node may take the place of another when both are trivia or neither is. -/
theorem proper_splice (hd : ∀ n ∈ d.nodes, n.Proper) (h : d.node? i up = some n) {m : Node}
    (hm : m.Proper) (htriv : m.isTrivia = n.isTrivia) :
    ∀ k ∈ (d.splice i up [m]).nodes, k.Proper := by
  have hi : (d.childrenAt up)[i]? = some n := h
  have hup := proper_childrenAt hd up
  rw [splice]
  refine proper_exchange hd (fun c hc => ?_) ?_
  · rcases List.mem_append.1 hc with hc | hc
    · exact hup c (List.mem_of_mem_take hc)
    rcases List.mem_append.1 hc with hc | hc
    · rw [List.mem_singleton.1 hc]
      exact hm
    · exact hup c (List.mem_of_mem_drop hc)
  · conv_rhs => rw [Node.eq_take_cons_drop hi]
    simp [htriv]

/-! ## Documents that read as they are -/

/-- Whether a document, laid out anew, is the one of its text: its tokens are a scan once they are put
    one behind the other, and its nodes are proper. -/
structure Readable (d : Document) : Prop where
  scan : Token.IsScan 0 (Token.laid 0 (Node.tokensOf d.nodes))
  proper : ∀ n ∈ d.nodes, n.Proper

theorem Readable.of_parse {source : List Char} (h : parse source = .ok d) : d.Readable := by
  obtain ⟨-, -, hscan, hproper⟩ := parse_eq_ok_iff.1 h
  exact ⟨hscan.laid 0, hproper⟩

theorem Readable.parse_text (h : d.Readable) :
    parse d.text = .ok ⟨Node.laidAll 0 d.nodes, d.text⟩ := by
  refine parse_eq_ok_iff.2 ⟨rfl, Node.textOf_laidAll 0 d.nodes, ?_, Node.proper_laidAll h.proper 0⟩
  rw [Node.tokensOf_laidAll]
  exact h.scan

/-- A node may take the place of another in such a document if the tokens around the place stay apart
    from those of the new node. -/
theorem Readable.splice {us vs : List Token} {m : Node} {o : Int} (hd : d.Readable)
    (h : d.node? i up = some n) (hm : m.Proper) (hscan : Token.IsScan o m.tokens)
    (htriv : m.isTrivia = n.isTrivia) (htok : Node.tokensOf d.nodes = us ++ n.tokens ++ vs)
    (hex : ∀ ms, Node.tokensOf (d.splice i up ms).nodes = us ++ Node.tokensOf ms ++ vs)
    (hbefore : ∀ t ∈ us.getLast?, t.StandsBefore m.text)
    (hbehind : ∀ t ∈ m.tokens.getLast?, t.StandsBefore (Token.textOf vs)) :
    (d.splice i up [m]).Readable := by
  refine ⟨?_, proper_splice hd.proper h hm htriv⟩
  have hne : m.tokens ≠ [] := by
    match m with
    | .leaf t => simp
    | .delimited b t cs c => simp
    | .marked t cs => simp
  have hold := hd.scan
  rw [htok, Token.laid_append, Token.laid_append] at hold
  have hnew := hold.exchange hscan hne (fun t ht => Token.standsBefore_laid.2 hbefore t ht)
    (by rwa [Token.textOf_laid])
  rw [hex, Node.tokensOf_cons, Node.tokensOf_nil, List.append_nil]
  simpa only [Token.laid_append, Token.laid_laid, Token.textOf_append, Token.textOf_laid] using hnew

/-- A document in which a node has taken the place of another is, laid out anew, the document of its
    text, if the tokens around the place stay apart from those of the new node. -/
theorem parse_splice {source : List Char} {us vs : List Token} {m : Node} {o : Int}
    (hd : parse source = .ok d) (h : d.node? i up = some n) (hm : m.Proper)
    (hscan : Token.IsScan o m.tokens) (htriv : m.isTrivia = n.isTrivia)
    (htok : Node.tokensOf d.nodes = us ++ n.tokens ++ vs)
    (hex : ∀ ms, Node.tokensOf (d.splice i up ms).nodes = us ++ Node.tokensOf ms ++ vs)
    (hbefore : ∀ t ∈ us.getLast?, t.StandsBefore m.text)
    (hbehind : ∀ t ∈ m.tokens.getLast?, t.StandsBefore (Token.textOf vs)) :
    parse (Token.textOf us ++ (m.text ++ Token.textOf vs)) =
      .ok ⟨Node.laidAll 0 (d.splice i up [m]).nodes,
        Token.textOf us ++ (m.text ++ Token.textOf vs)⟩ := by
  have htext : (d.splice i up [m]).text = Token.textOf us ++ (m.text ++ Token.textOf vs) := by
    rw [text, Node.textOf, hex, Node.tokensOf_cons, Node.tokensOf_nil, List.append_nil,
      Token.textOf_append, Token.textOf_append, List.append_assoc]
    rfl
  rw [← htext]
  exact ((Readable.of_parse hd).splice h hm hscan htriv htok hex hbefore hbehind).parse_text

end Document

end FormEdit
