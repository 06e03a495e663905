import FormEdit.Document.Basic
import FormEdit.Proofs.Token.Scan

set_option autoImplicit false

/-! # Proper trees are what is built

A tree is proper when each of its nodes is formed as its tokens ask: a bracketed form ends with the
closer of its opener, and a mark has as many forms as it applies to, the last of them at its end.
Building a document from a run of tokens succeeds exactly when the run is that of a list of proper
trees, and then the document has these trees (`Document.ofTokens_eq_ok_iff`). -/

namespace FormEdit

/-- Whether tokens of a kind are nodes by themselves. Brackets and marks open or close a form. -/
def TokenKind.standsAlone : TokenKind → Bool
  | opener | closer | mark => false
  | _ => true

namespace Node

/-- Whether a node and all nodes inside it are formed as their tokens ask. -/
inductive Proper : Node → Prop
  | leaf {t : Token} (alone : t.kind.standsAlone = true) : Proper (.leaf t)
  | delimited {b : Bracket} {o c : Token} {cs : List Node} (opens : o.kind = .opener)
      (opening : o.text = b.opening) (closes : c.kind = .closer) (closing : c.text = b.closing)
      (inside : ∀ n ∈ cs, Proper n) : Proper (.delimited b o cs c)
  | marked {m : Token} {cs : List Node} (marks : m.kind = .mark)
      (count : (semantic cs).length = m.arity) (last : ∀ n ∈ cs.getLast?, n.isTrivia = false)
      (inside : ∀ n ∈ cs, Proper n) : Proper (.marked m cs)

theorem semantic_cons (n : Node) (ns : List Node) :
    semantic (n :: ns) = if n.isTrivia then semantic ns else n :: semantic ns := by
  cases h : n.isTrivia <;> simp [semantic, h]

@[simp] theorem semantic_append (ns ms : List Node) :
    semantic (ns ++ ms) = semantic ns ++ semantic ms := List.filter_append ..

end Node

namespace Builder

/-! ## Taking in whole nodes -/

/-- Take in a node: trivia completes nothing, a form may complete marks. -/
def put (n : Node) (b : Builder) : Builder := if n.isTrivia then b.addTrivia n else b.add n

/-- Take in nodes in order. -/
def putAll (ns : List Node) (b : Builder) : Builder := ns.foldl (fun b n => b.put n) b

@[simp] theorem putAll_nil (b : Builder) : putAll [] b = b := rfl

@[simp] theorem putAll_cons (n : Node) (ns : List Node) (b : Builder) :
    putAll (n :: ns) b = putAll ns (b.put n) := rfl

theorem put_top (n : Node) (top : List Node) : put n ⟨[], top⟩ = ⟨[], n :: top⟩ := by
  unfold put
  split <;> rfl

theorem put_bracket (n : Node) (o : Token) (cs : List Node) (fs : List Frame) (top : List Node) :
    put n ⟨.bracket o cs :: fs, top⟩ = ⟨.bracket o (n :: cs) :: fs, top⟩ := by
  unfold put
  split <;> rfl

theorem putAll_top (ns top : List Node) : putAll ns ⟨[], top⟩ = ⟨[], ns.reverse ++ top⟩ := by
  induction ns generalizing top with
  | nil => rfl
  | cons n ns ih => rw [putAll_cons, put_top, ih]; simp

theorem putAll_bracket (ns : List Node) (o : Token) (cs : List Node) (fs : List Frame)
    (top : List Node) :
    putAll ns ⟨.bracket o cs :: fs, top⟩ = ⟨.bracket o (ns.reverse ++ cs) :: fs, top⟩ := by
  induction ns generalizing cs with
  | nil => rfl
  | cons n ns ih => rw [putAll_cons, put_bracket, ih]; simp

/-- Nodes that end with the last form a mark waits for complete the mark. -/
theorem putAll_mark {ns : List Node} {more : Nat} (hlen : (Node.semantic ns).length = more + 1)
    (hlast : ∀ n ∈ ns.getLast?, n.isTrivia = false) (m : Token) (cs : List Node)
    (fs : List Frame) (top : List Node) :
    putAll ns ⟨.mark m more cs :: fs, top⟩ = attach (.marked m (cs.reverse ++ ns)) fs top := by
  induction ns generalizing more cs with
  | nil => cases hlen
  | cons n ns ih =>
    have hlast' : ∀ k ∈ ns.getLast?, k.isTrivia = false :=
      fun k hk => hlast k (List.mem_getLast?_cons hk)
    rw [Node.semantic_cons] at hlen
    rw [putAll_cons, put]
    split at hlen
    · next hn =>
      rw [if_pos hn, addTrivia, ih hlen hlast']
      simp
    · next hn =>
      rw [if_neg hn, add]
      rw [List.length_cons] at hlen
      cases more with
      | succ k =>
        rw [attach, ih (by omega) hlast']
        simp
      | zero =>
        -- No form is left, so nothing is: what comes last would be one.
        have hns : ns = [] := by
          rcases List.eq_nil_or_concat ns with hns | ⟨ls, l, rfl⟩
          · exact hns
          · have hl := hlast' l (by simp)
            simp [Node.semantic, hl] at hlen
        subst hns
        rw [attach, putAll_nil]
        simp

/-! ## Tokens of proper trees are taken in -/

theorem run_append {b b' : Builder} {p p' : Position} {ts : List Token}
    (h : b.run p ts = .ok (b', p')) (us : List Token) : b.run p (ts ++ us) = b'.run p' us := by
  induction ts generalizing b p with
  | nil =>
    cases h
    rfl
  | cons t ts ih =>
    rw [run] at h
    rw [List.cons_append, run]
    split at h
    · cases h
    · exact ih h

theorem push_alone {t : Token} (h : t.kind.standsAlone = true) (line column : Int) (b : Builder) :
    b.push t line column = .ok (b.put (.leaf t)) := by
  unfold push put Node.isTrivia Token.isTrivia
  cases hk : t.kind <;> simp_all [TokenKind.standsAlone, TokenKind.isTrivia]

/-- Nodes whose tokens are taken in as the nodes are, are so one after the other. -/
theorem run_tokensOf {ns : List Node}
    (h : ∀ n ∈ ns, ∀ b p, run b p n.tokens = .ok (b.put n, p.advance n.text)) (b : Builder)
    (p : Position) :
    b.run p (Node.tokensOf ns) = .ok (b.putAll ns, p.advance (Node.textOf ns)) := by
  induction ns generalizing b p with
  | nil => rfl
  | cons n ns ih =>
    rw [Node.tokensOf_cons, run_append (h n (by simp) b p), ih fun m hm => h m (by simp [hm])]
    simp

/-- The tokens of a proper node are taken in as the node is. -/
theorem run_tokens {n : Node} (h : n.Proper) (b : Builder) (p : Position) :
    b.run p n.tokens = .ok (b.put n, p.advance n.text) := by
  induction h generalizing b p with
  | @leaf t alone =>
    rw [Node.tokens_leaf, run, push_alone alone]
    simp [run, Node.text]
  | @delimited br o c cs opens opening closes closing inside ih =>
    have hopen : b.push o p.line p.column = .ok ⟨.bracket o [] :: b.frames, b.top⟩ := by
      simp [push, opens]
    have hbr : Bracket.ofOpening? o.text = some br := by rw [opening, Bracket.ofOpening?_opening]
    -- The children are gathered in the frame that the opener has put on the stack.
    have hcs := run_tokensOf ih ⟨.bracket o [] :: b.frames, b.top⟩ (p.advance o.text)
    rw [putAll_bracket, List.append_nil] at hcs
    rw [Node.tokens_delimited, run, hopen]
    simp only
    rw [run_append hcs, run]
    simp [push, closes, close, hbr, closing, run, put, add, Node.isTrivia, Node.text, Node.textOf]
  | @marked m cs marks count last inside ih =>
    have hpos := (Token.arity_pos_iff m).2 marks
    have hopen : b.push m p.line p.column =
        .ok ⟨.mark m (m.arity - 1) [] :: b.frames, b.top⟩ := by
      simp [push, marks]
    have hcs := run_tokensOf ih ⟨.mark m (m.arity - 1) [] :: b.frames, b.top⟩ (p.advance m.text)
    rw [putAll_mark (by omega) last] at hcs
    rw [Node.tokens_marked, run, hopen]
    simp only
    rw [hcs]
    simp [put, add, Node.isTrivia, Node.text, Node.textOf]

/-- The tokens of nodes are all taken in, and the nodes are what is complete then. -/
theorem run_nodes {ns : List Node} (h : ∀ n ∈ ns, n.Proper) :
    empty.run .start (Node.tokensOf ns) =
      .ok (⟨[], ns.reverse⟩, Position.start.advance (Node.textOf ns)) := by
  rw [run_tokensOf fun n hn => run_tokens (h n hn), empty, putAll_top, List.append_nil]

/-! ## What a builder has taken in -/

end Builder

namespace Frame

/-- The tokens of an open form so far. -/
def tokens : Frame → List Token
  | bracket o cs => o :: Node.tokensOf cs.reverse
  | mark m _ cs => m :: Node.tokensOf cs.reverse

/-- Whether an open form is formed as its tokens ask as far as it goes. -/
def Proper : Frame → Prop
  | bracket o cs => o.kind = .opener ∧ ∀ n ∈ cs, n.Proper
  | mark m more cs =>
    m.kind = .mark ∧ (Node.semantic cs).length + more + 1 = m.arity ∧ ∀ n ∈ cs, n.Proper

end Frame

namespace Builder

/-- The tokens that a builder has taken in. -/
def tokens (b : Builder) : List Token :=
  Node.tokensOf b.top.reverse ++ b.frames.reverse.flatMap Frame.tokens

/-- Whether all that a builder holds is formed as its tokens ask. -/
structure Proper (b : Builder) : Prop where
  frames : ∀ f ∈ b.frames, f.Proper
  top : ∀ n ∈ b.top, n.Proper

theorem tokens_cons (f : Frame) (fs : List Frame) (top : List Node) :
    tokens ⟨f :: fs, top⟩ = tokens ⟨fs, top⟩ ++ f.tokens := by
  simp [tokens]

theorem proper_cons {f : Frame} {fs : List Frame} {top : List Node} :
    Proper ⟨f :: fs, top⟩ ↔ f.Proper ∧ Proper ⟨fs, top⟩ := by
  constructor
  · rintro ⟨hf, ht⟩
    exact ⟨hf f (by simp), ⟨fun g hg => hf g (by simp [hg]), ht⟩⟩
  · rintro ⟨hf, hfs, ht⟩
    refine ⟨fun g hg => ?_, ht⟩
    rcases List.mem_cons.1 hg with rfl | hg
    · exact hf
    · exact hfs g hg

theorem proper_empty : empty.Proper := ⟨by simp [empty], by simp [empty]⟩

theorem semantic_reverse_length (cs : List Node) :
    (Node.semantic cs.reverse).length = (Node.semantic cs).length := by
  simp [Node.semantic]

theorem tokens_attach (n : Node) (fs : List Frame) (top : List Node) :
    (attach n fs top).tokens = tokens ⟨fs, top⟩ ++ n.tokens := by
  induction fs generalizing n with
  | nil => simp [attach, tokens]
  | cons f fs ih =>
    match f with
    | .bracket o cs => simp [attach, tokens_cons, Frame.tokens]
    | .mark m (more + 1) cs => simp [attach, tokens_cons, Frame.tokens]
    | .mark m 0 cs => rw [attach, ih, tokens_cons]; simp [Frame.tokens]

theorem Proper.attach {n : Node} {fs : List Frame} {top : List Node} (hb : Proper ⟨fs, top⟩)
    (hn : n.Proper) (ht : n.isTrivia = false) : (Builder.attach n fs top).Proper := by
  induction fs generalizing n with
  | nil => exact ⟨by simp [Builder.attach], by simpa [Builder.attach] using ⟨hn, hb.top⟩⟩
  | cons f fs ih =>
    obtain ⟨hf, hfs⟩ := proper_cons.1 hb
    match f, hf with
    | .bracket o cs, ⟨ho, hcs⟩ =>
      refine proper_cons.2 ⟨⟨ho, ?_⟩, hfs⟩
      simpa using ⟨hn, hcs⟩
    | .mark m (more + 1) cs, ⟨hm, hlen, hcs⟩ =>
      refine proper_cons.2 ⟨⟨hm, ?_, ?_⟩, hfs⟩
      · rw [Node.semantic_cons, if_neg (by simp [ht]), List.length_cons]
        omega
      · simpa using ⟨hn, hcs⟩
    | .mark m 0 cs, ⟨hm, hlen, hcs⟩ =>
      -- The mark has all its forms now, so it is a form itself and goes on to the next frame.
      refine ih hfs (.marked hm ?_ ?_ ?_) rfl
      · rw [semantic_reverse_length, Node.semantic_cons, if_neg (by simp [ht]), List.length_cons]
        omega
      · simpa using ht
      · simpa [or_imp, forall_and] using ⟨hcs, hn⟩

theorem tokens_put (n : Node) (b : Builder) : (b.put n).tokens = b.tokens ++ n.tokens := by
  unfold put
  split
  · match b with
    | ⟨[], top⟩ => simp [addTrivia, tokens]
    | ⟨.bracket o cs :: fs, top⟩ => simp [addTrivia, tokens_cons, Frame.tokens]
    | ⟨.mark m more cs :: fs, top⟩ => simp [addTrivia, tokens_cons, Frame.tokens]
  · exact tokens_attach n b.frames b.top

theorem Proper.put {n : Node} {b : Builder} (hb : b.Proper) (hn : n.Proper) :
    (b.put n).Proper := by
  unfold Builder.put
  split
  · next ht =>
    match b, hb with
    | ⟨[], top⟩, hb => exact ⟨by simp [addTrivia], by simpa [addTrivia] using ⟨hn, hb.top⟩⟩
    | ⟨.bracket o cs :: fs, top⟩, hb =>
      obtain ⟨⟨ho, hcs⟩, hfs⟩ := proper_cons.1 hb
      exact proper_cons.2 ⟨⟨ho, by simpa using ⟨hn, hcs⟩⟩, hfs⟩
    | ⟨.mark m more cs :: fs, top⟩, hb =>
      obtain ⟨⟨hm, hlen, hcs⟩, hfs⟩ := proper_cons.1 hb
      refine proper_cons.2 ⟨⟨hm, ?_, by simpa using ⟨hn, hcs⟩⟩, hfs⟩
      rw [Node.semantic_cons, if_pos ht]
      exact hlen
  · next ht => exact Proper.attach hb hn (by simpa using ht)

/-- A closer that is taken in closes the innermost form, which is a bracket of its sort. -/
theorem close_eq_ok {t : Token} {line column : Int} {b b' : Builder}
    (h : b.close t line column = .ok b') :
    ∃ o cs fs top br, b = ⟨.bracket o cs :: fs, top⟩ ∧ o.text = Bracket.opening br ∧
      t.text = br.closing ∧ b' = attach (.delimited br o cs.reverse t) fs top := by
  match b with
  | ⟨[], top⟩ => cases h
  | ⟨.mark m more cs :: fs, top⟩ => cases h
  | ⟨.bracket o cs :: fs, top⟩ =>
    rw [close] at h
    split at h
    · cases h
    · next br hbr =>
      split at h
      · next ht =>
        cases h
        exact ⟨o, cs, fs, top, br, rfl, Bracket.opening_of_ofOpening? hbr, ht, rfl⟩
      · cases h

/-- All that taking in a token can do: a token that stands alone is a node, an opener and a mark open
    a form, and a closer closes the innermost form. -/
theorem push_cases {t : Token} {line column : Int} {b b' : Builder}
    (h : b.push t line column = .ok b') :
    (t.kind.standsAlone = true ∧ b' = b.put (.leaf t)) ∨
    (t.kind = .opener ∧ b' = ⟨.bracket t [] :: b.frames, b.top⟩) ∨
    (t.kind = .mark ∧ b' = ⟨.mark t (t.arity - 1) [] :: b.frames, b.top⟩) ∨
    (t.kind = .closer ∧ ∃ o cs fs top br, b = ⟨.bracket o cs :: fs, top⟩ ∧
      o.text = Bracket.opening br ∧ t.text = br.closing ∧
      b' = attach (.delimited br o cs.reverse t) fs top) := by
  by_cases hal : t.kind.standsAlone
  · rw [push_alone hal] at h
    cases h
    exact .inl ⟨hal, rfl⟩
  · cases hk : t.kind <;> simp only [hk, TokenKind.standsAlone, not_true] at hal
    case opener =>
      simp only [push, hk] at h
      cases h
      exact .inr (.inl ⟨rfl, rfl⟩)
    case mark =>
      simp only [push, hk] at h
      cases h
      exact .inr (.inr (.inl ⟨rfl, rfl⟩))
    case closer =>
      simp only [push, hk] at h
      exact .inr (.inr (.inr ⟨rfl, close_eq_ok h⟩))

/-- Taking in a token keeps what is held as the tokens ask, and loses none of them. -/
theorem push_eq_ok {t : Token} {line column : Int} {b b' : Builder}
    (h : b.push t line column = .ok b') (hb : b.Proper) :
    b'.Proper ∧ b'.tokens = b.tokens ++ [t] := by
  rcases push_cases h with ⟨hal, rfl⟩ | ⟨hk, rfl⟩ | ⟨hk, rfl⟩ |
    ⟨hk, o, cs, fs, top, br, rfl, ho, hc, rfl⟩
  · exact ⟨hb.put (.leaf hal), tokens_put (.leaf t) b⟩
  · exact ⟨proper_cons.2 ⟨⟨hk, by simp⟩, hb⟩, tokens_cons _ _ _⟩
  · have hpos := (Token.arity_pos_iff t).2 hk
    refine ⟨proper_cons.2 ⟨⟨hk, ?_, by simp⟩, hb⟩, tokens_cons _ _ _⟩
    simp only [Node.semantic, List.filter_nil, List.length_nil]
    omega
  · obtain ⟨⟨hopen, hcs⟩, hfs⟩ := proper_cons.1 hb
    refine ⟨hfs.attach (.delimited hopen ho hk hc (by simpa using hcs)) rfl, ?_⟩
    rw [tokens_attach, tokens_cons]
    simp [Frame.tokens]

theorem run_eq_ok {b b' : Builder} {p p' : Position} {ts : List Token}
    (h : b.run p ts = .ok (b', p')) (hb : b.Proper) :
    b'.Proper ∧ b'.tokens = b.tokens ++ ts := by
  induction ts generalizing b p with
  | nil =>
    cases h
    exact ⟨hb, by simp⟩
  | cons t ts ih =>
    rw [run] at h
    split at h
    · cases h
    · next b₁ hpush =>
      obtain ⟨hb₁, htok⟩ := push_eq_ok hpush hb
      obtain ⟨hb', htok'⟩ := ih h hb₁
      exact ⟨hb', by rw [htok', htok, List.append_assoc, List.singleton_append]⟩

end Builder

namespace Document

/-- Building succeeds on the tokens of proper trees, and gives these trees. -/
theorem ofTokens_eq_ok_iff {ts : List Token} {source : List Char} {d : Document} :
    ofTokens ts source = .ok d ↔
      d.source = source ∧ Node.tokensOf d.nodes = ts ∧ ∀ n ∈ d.nodes, n.Proper := by
  constructor
  · intro h
    rw [ofTokens] at h
    split at h
    · cases h
    · next b here hrun =>
      obtain ⟨hb, htok⟩ := Builder.run_eq_ok hrun Builder.proper_empty
      rw [Builder.finish] at h
      match b with
      | ⟨[], top⟩ =>
        cases h
        exact ⟨rfl, by simpa [Builder.tokens, Builder.empty] using htok, by simpa using hb.top⟩
      | ⟨.mark m more cs :: fs, top⟩ => cases h
      | ⟨.bracket o cs :: fs, top⟩ => cases h
  · rintro ⟨rfl, rfl, hd⟩
    rw [ofTokens, Builder.run_nodes hd]
    simp [Builder.finish]

/-- The document of a source is the one list of proper trees whose tokens make up the source and
    pass the local test of scanning. -/
theorem parse_eq_ok_iff {source : List Char} {d : Document} :
    parse source = .ok d ↔ d.source = source ∧ d.text = source ∧
      Token.IsScan 0 (Node.tokensOf d.nodes) ∧ ∀ n ∈ d.nodes, n.Proper := by
  constructor
  · intro h
    rw [parse] at h
    split at h
    · cases h
    · next ts hts =>
      obtain ⟨hsource, rfl, hd⟩ := ofTokens_eq_ok_iff.1 h
      obtain ⟨htext, hscan⟩ := tokenize_eq_ok_iff.1 hts
      exact ⟨hsource, htext, hscan, hd⟩
  · rintro ⟨hsource, htext, hscan, hd⟩
    rw [parse, tokenize_eq_ok_iff.2 ⟨htext, hscan⟩]
    exact ofTokens_eq_ok_iff.2 ⟨hsource, rfl, hd⟩

end Document

end FormEdit
