import FormEdit.Proofs.Document.Place

set_option autoImplicit false

/-! # The grammar of documents

A source is a sequence of items, trivia and forms. A form is a token that stands alone, a bracketed
sequence of items, or a mark with the forms that it applies to, each with trivia before it. A source
is well formed exactly when it is cut into tokens and its tokens derive in this grammar. They derive
in one way only, and the document is that derivation (`Document.parse_derives`). -/

namespace FormEdit

namespace Grammar

mutual

/-- Any number of trivia and forms. -/
inductive Items : List Token → List Node → Prop
  | nil : Items [] []
  | trivia {t : Token} {ts : List Token} {ns : List Node} (ht : t.isTrivia = true)
      (h : Items ts ns) : Items (t :: ts) (.leaf t :: ns)
  | form {us ts : List Token} {n : Node} {ns : List Node} (hn : Form us n) (h : Items ts ns) :
      Items (us ++ ts) (n :: ns)

/-- One form. -/
inductive Form : List Token → Node → Prop
  | alone {t : Token} (ht : t.kind = .atom ∨ t.kind = .string ∨ t.kind = .char) : Form [t] (.leaf t)
  | bracketed {b : Bracket} {o c : Token} {ts : List Token} {ns : List Node}
      (ho : o.kind = .opener) (hot : o.text = b.opening) (h : Items ts ns) (hc : c.kind = .closer)
      (hct : c.text = b.closing) : Form (o :: (ts ++ [c])) (.delimited b o ns c)
  | marked {m : Token} {ts : List Token} {ns : List Node} (hm : m.kind = .mark)
      (h : Forms m.arity ts ns) : Form (m :: ts) (.marked m ns)

/-- A number of forms, each with any trivia before it. -/
inductive Forms : Nat → List Token → List Node → Prop
  | nil : Forms 0 [] []
  | trivia {k : Nat} {t : Token} {ts : List Token} {ns : List Node} (ht : t.isTrivia = true)
      (h : Forms (k + 1) ts ns) : Forms (k + 1) (t :: ts) (.leaf t :: ns)
  | form {k : Nat} {us ts : List Token} {n : Node} {ns : List Node} (hn : Form us n)
      (h : Forms k ts ns) : Forms (k + 1) (us ++ ts) (n :: ns)

end

/-! ## What derives is proper -/

theorem standsAlone_of_isTrivia {t : Token} (h : t.isTrivia = true) :
    t.kind.standsAlone = true := by
  unfold Token.isTrivia at h
  cases hk : t.kind <;> simp_all [TokenKind.isTrivia, TokenKind.standsAlone]

mutual

theorem Items.proper {ts : List Token} {ns : List Node} (h : Items ts ns) :
    Node.tokensOf ns = ts ∧ ∀ n ∈ ns, n.Proper := by
  match h with
  | .nil => exact ⟨rfl, by simp⟩
  | .trivia ht h =>
    obtain ⟨rfl, hns⟩ := h.proper
    exact ⟨rfl, by simpa using ⟨.leaf (standsAlone_of_isTrivia ht), hns⟩⟩
  | .form hn h =>
    obtain ⟨rfl, hns⟩ := h.proper
    obtain ⟨rfl, hn, -⟩ := hn.proper
    exact ⟨Node.tokensOf_cons _ _, by simpa using ⟨hn, hns⟩⟩

theorem Form.proper {ts : List Token} {n : Node} (h : Form ts n) :
    n.tokens = ts ∧ n.Proper ∧ n.isTrivia = false := by
  match h with
  | @Form.alone t ht =>
    refine ⟨rfl, .leaf ?_, ?_⟩
    · rcases ht with ht | ht | ht <;> rw [ht] <;> rfl
    · show t.kind.isTrivia = false
      rcases ht with ht | ht | ht <;> rw [ht] <;> rfl
  | .bracketed ho hot h hc hct =>
    obtain ⟨rfl, hns⟩ := h.proper
    exact ⟨Node.tokens_delimited _ _ _ _, .delimited ho hot hc hct hns, rfl⟩
  | .marked hm h =>
    obtain ⟨rfl, hns, hlen, hlast⟩ := h.proper
    exact ⟨Node.tokens_marked _ _, .marked hm hlen hlast hns, rfl⟩

theorem Forms.proper {k : Nat} {ts : List Token} {ns : List Node} (h : Forms k ts ns) :
    Node.tokensOf ns = ts ∧ (∀ n ∈ ns, n.Proper) ∧ (Node.semantic ns).length = k ∧
      ∀ n ∈ ns.getLast?, n.isTrivia = false := by
  match h with
  | .nil => exact ⟨rfl, by simp, rfl, by simp⟩
  | @Forms.trivia k t ts ns ht h =>
    obtain ⟨rfl, hns, hlen, hlast⟩ := h.proper
    have hne : ns ≠ [] := by
      rintro rfl
      cases hlen
    refine ⟨rfl, by simpa using ⟨.leaf (standsAlone_of_isTrivia ht), hns⟩, ?_, ?_⟩
    · rw [Node.semantic_cons, if_pos (show (Node.leaf t).isTrivia = true from ht), hlen]
    · rwa [List.getLast?_cons_of_ne_nil hne]
  | @Forms.form k us ts n ns hn h =>
    obtain ⟨rfl, hns, hlen, hlast⟩ := h.proper
    obtain ⟨rfl, hn, hsem⟩ := hn.proper
    refine ⟨Node.tokensOf_cons _ _, by simpa using ⟨hn, hns⟩, ?_, ?_⟩
    · rw [Node.semantic_cons, if_neg (by simp [hsem]), List.length_cons, hlen]
    · cases ns with
      | nil => simpa using hsem
      | cons m ms => rwa [List.getLast?_cons_cons]

end

/-! ## What is proper derives -/

theorem eq_leaf_of_isTrivia {n : Node} (h : n.isTrivia = true) :
    ∃ t : Token, n = .leaf t ∧ t.isTrivia = true := by
  match n with
  | .leaf t => exact ⟨t, rfl, h⟩
  | .delimited .. => cases h
  | .marked .. => cases h

theorem items_of_forms {ns : List Node} (h : ∀ n ∈ ns, n.isTrivia = false → Form n.tokens n) :
    Items (Node.tokensOf ns) ns := by
  induction ns with
  | nil => exact .nil
  | cons n ns ih =>
    have hns := ih fun m hm => h m (by simp [hm])
    rw [Node.tokensOf_cons]
    cases hn : n.isTrivia with
    | true =>
      obtain ⟨t, rfl, ht⟩ := eq_leaf_of_isTrivia hn
      exact .trivia ht hns
    | false => exact .form (h n (by simp) hn) hns

theorem forms_of_forms {ns : List Node} {k : Nat}
    (h : ∀ n ∈ ns, n.isTrivia = false → Form n.tokens n)
    (hlen : (Node.semantic ns).length = k) (hlast : ∀ n ∈ ns.getLast?, n.isTrivia = false) :
    Forms k (Node.tokensOf ns) ns := by
  induction ns generalizing k with
  | nil =>
    subst hlen
    exact .nil
  | cons n ns ih =>
    have hlast' : ∀ m ∈ ns.getLast?, m.isTrivia = false :=
      fun m hm => hlast m (List.mem_getLast?_cons hm)
    have hns : ∀ j, (Node.semantic ns).length = j → Forms j (Node.tokensOf ns) ns :=
      fun j hj => ih (fun m hm => h m (by simp [hm])) hj hlast'
    rw [Node.semantic_cons] at hlen
    rw [Node.tokensOf_cons]
    cases hn : n.isTrivia with
    | false =>
      rw [if_neg (by simp [hn]), List.length_cons] at hlen
      subst hlen
      exact .form (h n (by simp) hn) (hns _ rfl)
    | true =>
      rw [if_pos hn] at hlen
      obtain ⟨t, rfl, ht⟩ := eq_leaf_of_isTrivia hn
      -- Trivia is not the last node, and the last node is a form that is still to come.
      obtain ⟨j, rfl⟩ : ∃ j, k = j + 1 := by
        rcases List.eq_nil_or_concat ns with rfl | ⟨ms, m, rfl⟩
        · have := hlast (.leaf t) (by simp)
          rw [hn] at this
          cases this
        · have hm := hlast' m (by simp)
          refine ⟨(Node.semantic ms).length, ?_⟩
          rw [← hlen]
          simp [Node.semantic, hm]
      exact .trivia ht (hns _ hlen)

theorem form_of_proper {n : Node} (h : n.Proper) (hn : n.isTrivia = false) : Form n.tokens n := by
  induction h with
  | @leaf t halone =>
    refine .alone ?_
    change t.kind.isTrivia = false at hn
    cases hk : t.kind <;> simp_all [TokenKind.isTrivia, TokenKind.standsAlone]
  | delimited opens opening closes closing inside ih =>
    rw [Node.tokens_delimited]
    exact .bracketed opens opening (items_of_forms ih) closes closing
  | marked marks count last inside ih =>
    rw [Node.tokens_marked]
    exact .marked marks (forms_of_forms ih count last)

/-- A run of tokens derives as a list of nodes exactly when it is the run of their tokens and they
    are proper. -/
theorem items_iff {ts : List Token} {ns : List Node} :
    Items ts ns ↔ Node.tokensOf ns = ts ∧ ∀ n ∈ ns, n.Proper := by
  constructor
  · exact Items.proper
  · rintro ⟨rfl, hns⟩
    exact items_of_forms fun n hn => form_of_proper (hns n hn)

/-- A run of tokens derives in one way only. -/
theorem items_unique {ts : List Token} {ns ms : List Node} (hn : Items ts ns) (hm : Items ts ms) :
    ns = ms := by
  -- Building from the tokens gives both.
  have hbuild : ∀ {ls : List Node}, Items ts ls → Document.ofTokens ts [] = .ok ⟨ls, []⟩ :=
    fun h => Document.ofTokens_eq_ok_iff.2 ⟨rfl, items_iff.1 h⟩
  have := (hbuild hn).symm.trans (hbuild hm)
  simpa using this

end Grammar

/-! ## Openers that no bracket knows -/

namespace Builder

/-- The openers of the brackets that are still open. -/
def openers (b : Builder) : List Token :=
  b.frames.filterMap fun
    | .bracket o _ => some o
    | .mark .. => none

theorem openers_attach (n : Node) (fs : List Frame) (top : List Node) :
    (attach n fs top).openers = openers ⟨fs, top⟩ := by
  induction fs generalizing n with
  | nil => rfl
  | cons f fs ih =>
    match f with
    | .bracket o cs => rfl
    | .mark m (more + 1) cs => rfl
    | .mark m 0 cs => rw [attach, ih]; rfl

theorem openers_put (n : Node) (b : Builder) : (b.put n).openers = b.openers := by
  unfold put
  split
  · match b with
    | ⟨[], top⟩ => rfl
    | ⟨.bracket o cs :: fs, top⟩ => rfl
    | ⟨.mark m more cs :: fs, top⟩ => rfl
  · exact openers_attach n b.frames b.top

/-- Whether a token opens a form that some bracket knows, if it opens one at all. -/
def Known (t : Token) : Prop := t.kind = .opener → ∃ br : Bracket, t.text = br.opening

theorem known_of_push {t : Token} {line column : Int} {b b' : Builder}
    (h : b.push t line column = .ok b') (ht : Known t) (hb : ∀ o ∈ b.openers, Known o) :
    ∀ o ∈ b'.openers, Known o := by
  rcases push_cases h with ⟨-, rfl⟩ | ⟨-, rfl⟩ | ⟨-, rfl⟩ | ⟨-, o, cs, fs, top, br, rfl, -, -, rfl⟩
  · rwa [openers_put]
  · intro o ho
    rcases List.mem_cons.1 (show o ∈ t :: b.openers from ho) with rfl | ho
    · exact ht
    · exact hb o ho
  · exact hb
  · rw [openers_attach]
    exact fun u hu => hb u (List.mem_cons_of_mem _ hu)

/-- Where every opener is known, a closer that is refused is refused with an issue. -/
theorem issue_of_close {t : Token} {line column : Int} {b : Builder} {e : BuildError}
    (h : b.close t line column = .error e) (hp : b.Proper) (hb : ∀ o ∈ b.openers, Known o) :
    ∃ i, e = .issue i := by
  obtain ⟨fs, top⟩ := b
  cases fs with
  | nil =>
    cases h
    exact ⟨_, rfl⟩
  | cons f fs =>
    cases f with
    | mark m more cs =>
      cases h
      exact ⟨_, rfl⟩
    | bracket o cs =>
      have hopen : o.kind = .opener := (proper_cons.1 hp).1.1
      obtain ⟨br, hbr⟩ := hb o (List.mem_cons_self ..) hopen
      rw [close, hbr, Bracket.ofOpening?_opening] at h
      simp only at h
      split at h
      · cases h
      · cases h
        exact ⟨_, rfl⟩

/-- Only closers are refused. -/
theorem close_of_push {t : Token} {line column : Int} {b : Builder} {e : BuildError}
    (h : b.push t line column = .error e) :
    t.kind = .closer ∧ b.close t line column = .error e := by
  by_cases hal : t.kind.standsAlone
  · rw [push_alone hal] at h
    cases h
  · cases hk : t.kind <;> simp only [hk, TokenKind.standsAlone, not_true] at hal
    case opener => simp [push, hk] at h
    case mark => simp [push, hk] at h
    case closer =>
      simp only [push, hk] at h
      exact ⟨rfl, h⟩

theorem issue_of_run {ts : List Token} {b : Builder} {p : Position} {e : BuildError}
    (h : b.run p ts = .error e) (hts : ∀ t ∈ ts, Known t) (hp : b.Proper)
    (hb : ∀ o ∈ b.openers, Known o) : ∃ i, e = .issue i := by
  induction ts generalizing b p with
  | nil => cases h
  | cons t ts ih =>
    rw [run] at h
    split at h
    · next e' hpush =>
      cases h
      exact issue_of_close (close_of_push hpush).2 hp hb
    · next b' hpush =>
      exact ih h (fun u hu => hts u (List.mem_cons_of_mem _ hu)) (push_eq_ok hpush hp).1
        (known_of_push hpush (hts t (List.mem_cons_self ..)) hb)

end Builder

namespace Document

/-- Building a document of tokens with known openers comes to a document or an issue. -/
theorem ofTokens_total {ts : List Token} (hts : ∀ t ∈ ts, Builder.Known t) (source : List Char) :
    (∃ d, ofTokens ts source = .ok d) ∨ ∃ i, ofTokens ts source = .error (.issue i) := by
  rw [ofTokens]
  split
  · next e hrun =>
    obtain ⟨i, rfl⟩ := Builder.issue_of_run hrun hts Builder.proper_empty (by simp [Builder.openers,
      Builder.empty])
    exact .inr ⟨i, rfl⟩
  · next b here hrun =>
    rw [Builder.finish]
    split
    · exact .inl ⟨_, rfl⟩
    · exact .inr ⟨_, rfl⟩
    · exact .inr ⟨_, rfl⟩

/-- A scanned opener opens a bracket. -/
theorem known_of_whole {t : Token} (h : t.Whole) : Builder.Known t := by
  intro hk
  obtain ⟨c, s, ht, hreach⟩ := h
  have hfits := fits_of_reach hreach
  rw [hk] at hfits
  obtain ⟨br, hbr⟩ := hfits
  exact ⟨br, by rw [ht, hbr, List.take_length]⟩

theorem parse_total (source : List Char) :
    (∃ d, parse source = .ok d) ∨ ∃ i, parse source = .error (.issue i) := by
  rw [parse]
  split
  · exact .inr ⟨_, rfl⟩
  · next ts hts =>
    obtain ⟨-, hscan⟩ := tokenize_eq_ok_iff.1 hts
    exact ofTokens_total (fun t ht => known_of_whole (hscan.whole t ht)) source

end Document

/-- What a node says of itself: a token that stands alone, a form with the closer of its opener, or
    a mark with as many forms as it applies to, the last of them at the end. -/
def Node.IsFormed : Node → Prop
  | leaf t => t.kind.standsAlone = true
  | delimited b o _ c =>
    o.kind = .opener ∧ o.text = b.opening ∧ c.kind = .closer ∧ c.text = b.closing
  | marked m cs =>
    m.kind = .mark ∧ (semantic cs).length = m.arity ∧
      ∃ n, cs.getLast? = some n ∧ n.isTrivia = false

theorem Node.Proper.isFormed {n : Node} (h : n.Proper) : n.IsFormed := by
  cases h with
  | leaf alone => exact alone
  | delimited opens opening closes closing _ => exact ⟨opens, opening, closes, closing⟩
  | @marked m cs marks count last _ =>
    have hpos := (Token.arity_pos_iff m).2 marks
    refine ⟨marks, count, ?_⟩
    cases hcs : cs.getLast? with
    | none =>
      rw [List.getLast?_eq_none_iff] at hcs
      subst hcs
      simp [Node.semantic] at count
      omega
    | some n => exact ⟨n, rfl, last n (by simp [hcs])⟩

/-- A source comes to a document or an issue. It comes to a document exactly when it is cut into
    tokens that derive in the grammar; they derive in one way only, which is the document, and every
    node in it is formed as its tokens ask. -/
theorem Document.parse_derives (source : List Char) :
    ((∃ d, parse source = .ok d) ∨ ∃ i, parse source = .error (.issue i)) ∧
    (∀ d, parse source = .ok d ↔
      d.source = source ∧ ∃ ts, tokenize source = .ok ts ∧ Grammar.Items ts d.nodes) ∧
    (∀ ts ns ms, Grammar.Items ts ns → Grammar.Items ts ms → ns = ms) ∧
    ∀ d i up n, parse source = .ok d → d.node? i up = some n → n.IsFormed := by
  refine ⟨parse_total source, fun d => ?_, fun _ _ _ => Grammar.items_unique,
    fun d i up n hd hn => ?_⟩
  · constructor
    · intro hd
      obtain ⟨hsource, htext, hscan, hns⟩ := parse_eq_ok_iff.1 hd
      exact ⟨hsource, Node.tokensOf d.nodes, tokenize_eq_ok_iff.2 ⟨htext, hscan⟩,
        Grammar.items_iff.2 ⟨rfl, hns⟩⟩
    · rintro ⟨hsource, ts, hts, hitems⟩
      obtain ⟨rfl, hns⟩ := Grammar.items_iff.1 hitems
      obtain ⟨htext, hscan⟩ := tokenize_eq_ok_iff.1 hts
      exact parse_eq_ok_iff.2 ⟨hsource, htext, hscan, hns⟩
  · obtain ⟨-, -, -, hns⟩ := parse_eq_ok_iff.1 hd
    exact (proper_of_node? hns hn).isFormed

end FormEdit
