import FormEdit.Proofs.Document.Exchange
import FormEdit.Proofs.Document.Index
import FormEdit.Proofs.Document.Moves

set_option autoImplicit false

/-! # What a splice leaves as it is

Nodes that take the place of another change the forms around it, which keep their tokens, and
nothing else. A node beside the place, or inside one beside it, is found where it was, or as many
indexes further on as there are more nodes than before (`Trail.moved`). The tokens before the place
and behind it stay, so the new cursor starts behind those before it (`Cursor.splice_frame`). -/

namespace FormEdit

namespace Trail

/-- The trail of a node once `m` nodes are in the place of the one with index `i` at the trail `up`.
    Among the nodes beside the place the index of those behind it is another. -/
def moved (i : Nat) (up : Trail) (m : Nat) : Trail → Trail
  | [] => []
  | j :: t => if t = up then (if i < j then j + m - 1 else j) :: t else j :: moved i up m t

/-- The path of a node is that of the form around it with one more index. -/
theorem map_reverse_cons (j : Nat) (t : Trail) :
    (j :: t).reverse.map Int.ofNat = t.reverse.map Int.ofNat ++ [(j : Int)] := by
  simp

theorem moved_ne_nil {i m : Nat} {up t : Trail} (h : t ≠ []) : moved i up m t ≠ [] := by
  cases t with
  | nil => exact absurd rfl h
  | cons j t =>
    rw [moved]
    split <;> exact List.cons_ne_nil _ _

/-- A trail that is too short to lead below `up` stays. -/
theorem moved_of_length_le {i m : Nat} {up t : Trail} (h : t.length ≤ up.length) :
    moved i up m t = t := by
  induction t with
  | nil => rfl
  | cons j t ih =>
    rw [List.length_cons] at h
    have hne : t ≠ up := by
      rintro rfl
      omega
    rw [moved, if_neg hne, ih (by omega)]

end Trail

namespace Node

variable {n : Node}

@[simp] theorem opening_withChildren (n : Node) (cs : List Node) :
    (n.withChildren cs).opening = n.opening := by
  cases n <;> rfl

@[simp] theorem withChildren_children (n : Node) (cs : List Node) :
    n.withChildren (n.withChildren cs).children = n.withChildren cs := by
  cases n <;> rfl

/-- Only a node that has children can have others. -/
theorem children_withChildren (h : n.children ≠ []) (cs : List Node) :
    (n.withChildren cs).children = cs := by
  cases n with
  | leaf t => exact absurd rfl h
  | delimited b o cs' c => rfl
  | marked m cs' => rfl

/-- A form has the same token before its children and the same tokens behind them, whatever its
    children are. -/
theorem exists_tokens_behind_children (h : n.children ≠ []) :
    ∃ vs, n.tokens = n.opening :: (tokensOf n.children ++ vs) ∧
      ∀ cs, (n.withChildren cs).tokens = n.opening :: (tokensOf cs ++ vs) := by
  cases n with
  | leaf t => exact absurd rfl h
  | delimited b o cs' c =>
    exact ⟨[c], tokens_delimited b o c cs', fun cs => tokens_delimited b o c cs⟩
  | marked m cs' =>
    refine ⟨[], ?_, fun cs => ?_⟩ <;> simp [opening, children, withChildren]

end Node

namespace Document

/-- The node that a trail names, none for the trail of the document itself. -/
def nodeAt? (d : Document) : Trail → Option Node
  | [] => none
  | j :: t => d.node? j t

variable {d : Document} {i k : Nat} {up t : Trail} {n : Node} {ns : List Node}

/-- The children at the trail of a node are its own. -/
theorem childrenAt_eq_of_nodeAt? {t : Trail} (ht : t ≠ []) :
    d.childrenAt t = ((d.nodeAt? t).map Node.children).getD [] := by
  cases t with
  | nil => exact absurd rfl ht
  | cons j t =>
    rw [childrenAt, nodeAt?, node?]
    cases (d.childrenAt t)[j]? <;> rfl

/-! ## The forms around a place -/

/-- Exchanging the children of a form exchanges those of each form around it. -/
theorem exists_exchange_of_suffix (h : d.childrenAt up ≠ []) (hs : (k :: t) <:+ up)
    (cs : List Node) :
    ∃ m cs', d.node? k t = some m ∧
      d.exchange up cs = d.exchange t ((d.childrenAt t).set k (m.withChildren cs')) := by
  induction up generalizing cs with
  | nil => simp at hs
  | cons j up ih =>
    cases hm : (d.childrenAt up)[j]? with
    | none => simp [childrenAt, hm] at h
    | some m =>
      have hnode : d.node? j up = some m := hm
      rcases List.suffix_cons_iff.1 hs with heq | hs
      · cases heq
        refine ⟨m, cs, hnode, ?_⟩
        simp only [exchange, hnode]
      · obtain ⟨m', cs', hm', hex⟩ := ih (childrenAt_ne_nil hnode) hs
          ((d.childrenAt up).set j (m.withChildren cs))
        refine ⟨m', cs', hm', ?_⟩
        simp only [exchange, hnode, hex]

/-- The children of a form around a place are as they were, but for the one on the way to it, which
    has other children. -/
theorem exists_childrenAt_splice (h : d.node? i up = some n) (hs : (k :: t) <:+ up)
    (ns : List Node) :
    ∃ m, d.node? k t = some m ∧ (d.splice i up ns).childrenAt t =
      (d.childrenAt t).set k (m.withChildren ((d.splice i up ns).childrenAt (k :: t))) := by
  obtain ⟨m, cs, hm, hex⟩ := exists_exchange_of_suffix (childrenAt_ne_nil h) hs
    ((d.childrenAt up).take i ++ (ns ++ (d.childrenAt up).drop (i + 1)))
  have hk := (List.getElem?_eq_some_iff.1 hm).1
  have hcs : (d.splice i up ns).childrenAt t = (d.childrenAt t).set k (m.withChildren cs) := by
    rw [splice, hex]
    exact childrenAt_exchange (childrenAt_ne_nil hm) _
  refine ⟨m, hm, ?_⟩
  rw [childrenAt, hcs, List.getElem?_set_self hk]
  simp only [Node.withChildren_children]

/-- The children at a place, where others have taken the place of one. -/
theorem childrenAt_splice (h : d.node? i up = some n) (ns : List Node) :
    (d.splice i up ns).childrenAt up =
      (d.childrenAt up).take i ++ (ns ++ (d.childrenAt up).drop (i + 1)) :=
  childrenAt_exchange (childrenAt_ne_nil h) _

/-! ## Nodes apart from a place -/

/-- A node in a form around the place stays where it is unless it is on the way to the place. -/
theorem node?_splice_off_way {j : Nat} (h : d.node? i up = some n) (hs : (k :: t) <:+ up)
    (hj : j ≠ k) (ns : List Node) : (d.splice i up ns).node? j t = d.node? j t := by
  obtain ⟨m, -, hcs⟩ := exists_childrenAt_splice h hs ns
  rw [node?, node?, hcs, List.getElem?_set_ne hj.symm]

/-- A node beside the place is there, with another index when it is behind it. -/
theorem node?_splice_beside {j : Nat} (h : d.node? i up = some n) (hj : j ≠ i) (ns : List Node) :
    (d.splice i up ns).node? (if i < j then j + ns.length - 1 else j) up = d.node? j up := by
  have hlen := length_take_childrenAt h
  rw [node?, node?, childrenAt_splice h]
  split
  · next hlt =>
    have hindex : j + ns.length - 1 - i - ns.length = j - (i + 1) := by omega
    have hdrop : i + 1 + (j - (i + 1)) = j := by omega
    rw [List.getElem?_append_right (by omega), hlen, List.getElem?_append_right (by omega), hindex,
      List.getElem?_drop, hdrop]
  · rw [List.getElem?_append_left (by omega), List.getElem?_take_of_lt (by omega)]

/-- What is neither around the place nor inside the node there is found where its trail has
    moved. -/
theorem nodeAt?_splice_moved (h : d.node? i up = some n) (hinside : ¬ (i :: up) <:+ t)
    (haround : ¬ t <:+ (i :: up)) (ns : List Node) :
    (d.splice i up ns).nodeAt? (Trail.moved i up ns.length t) = d.nodeAt? t := by
  induction t with
  | nil => exact absurd (List.nil_suffix) haround
  | cons j t ih =>
    rw [Trail.moved]
    split
    · next heq =>
      subst heq
      refine node?_splice_beside h ?_ ns
      rintro rfl
      exact hinside (List.suffix_refl _)
    · next hne =>
      have hinside' : ¬ (i :: up) <:+ t := fun hs => hinside (List.suffix_cons_iff.2 (.inr hs))
      by_cases hs : t <:+ (i :: up)
      · -- The form is around the place, and its child is not on the way to it.
        rcases List.suffix_cons_iff.1 hs with heq | hs
        · exact absurd (heq ▸ List.suffix_refl _) hinside'
        · rw [Trail.moved_of_length_le hs.length_le]
          obtain ⟨r, rfl⟩ := hs
          rcases List.eq_nil_or_concat r with rfl | ⟨r, k, rfl⟩
          · exact absurd rfl hne
          · rw [List.concat_eq_append, List.append_assoc, List.singleton_append] at h haround ⊢
            refine node?_splice_off_way h (List.suffix_append r (k :: t)) ?_ ns
            rintro rfl
            exact haround ⟨i :: r, rfl⟩
      · have hsame := ih hinside' hs
        have ht : t ≠ [] := by
          rintro rfl
          exact hs List.nil_suffix
        rw [nodeAt?, nodeAt?, node?, node?, childrenAt_eq_of_nodeAt? (Trail.moved_ne_nil ht), hsame,
          ← childrenAt_eq_of_nodeAt? ht]

/-! ## Tokens around a place -/

/-- The tokens before the children of a form, and those behind them, are the same whatever its
    children are. -/
theorem exists_contents?_exchange (h : d.childrenAt up ≠ []) :
    ∃ us vs, Node.contents? d.nodes (up.reverse.map Int.ofNat) = some (us, d.childrenAt up) ∧
      Node.tokensOf d.nodes = us ++ Node.tokensOf (d.childrenAt up) ++ vs ∧
      ∀ cs, Node.contents? (d.exchange up cs) (up.reverse.map Int.ofNat) = some (us, cs) ∧
        Node.tokensOf (d.exchange up cs) = us ++ Node.tokensOf cs ++ vs := by
  induction up with
  | nil => exact ⟨[], [], rfl, by simp [childrenAt], fun cs => ⟨rfl, by simp [exchange]⟩⟩
  | cons j up ih =>
    cases hm : (d.childrenAt up)[j]? with
    | none => simp [childrenAt, hm] at h
    | some m =>
      have hcs : d.childrenAt (j :: up) = m.children := by rw [childrenAt, hm]
      have hnode : d.node? j up = some m := hm
      have hj := (List.getElem?_eq_some_iff.1 hm).1
      rw [hcs] at h ⊢
      obtain ⟨us, vs, hold, htok, hnew⟩ := ih (childrenAt_ne_nil hnode)
      obtain ⟨vs', hmtok, hmnew⟩ := Node.exists_tokens_behind_children h
      rw [Trail.map_reverse_cons]
      refine ⟨us ++ Node.tokensOf ((d.childrenAt up).take j) ++ [m.opening],
        vs' ++ Node.tokensOf ((d.childrenAt up).drop (j + 1)) ++ vs,
        Node.contents?_of_reach? (Node.reach?_concat hold hm), ?_, fun cs => ?_⟩
      · rw [htok, Node.tokensOf_eq_of_getElem? hm, hmtok]
        simp only [List.append_assoc, List.cons_append, List.nil_append]
      · have hex : d.exchange (j :: up) cs =
            d.exchange up ((d.childrenAt up).set j (m.withChildren cs)) := by
          simp only [exchange, hnode]
        obtain ⟨hup, huptok⟩ := hnew ((d.childrenAt up).set j (m.withChildren cs))
        have hreach := Node.reach?_concat hup (List.getElem?_set_self hj)
        rw [List.take_set_of_le (Nat.le_refl j)] at hreach
        have hin := Node.contents?_of_reach? hreach
        rw [Node.opening_withChildren, Node.children_withChildren h] at hin
        rw [hex]
        refine ⟨hin, ?_⟩
        rw [huptok, Node.set_eq_take_cons_drop hm, Node.tokensOf_append, Node.tokensOf_cons, hmnew]
        simp only [List.append_assoc, List.cons_append, List.nil_append]

/-- The tokens before a node and those behind it stay when others take its place, and each of those
    stands behind the tokens before the place and of the ones before it. -/
theorem exists_reach?_splice (h : d.node? i up = some n) :
    ∃ us vs, Node.reach? d.nodes ((i :: up).reverse.map Int.ofNat) = some (us, n) ∧
      Node.tokensOf d.nodes = us ++ n.tokens ++ vs ∧
      ∀ ns, Node.tokensOf (d.splice i up ns).nodes = us ++ Node.tokensOf ns ++ vs ∧
        ∀ k m, ns[k]? = some m →
          Node.reach? (d.splice i up ns).nodes (((i + k) :: up).reverse.map Int.ofNat) =
            some (us ++ Node.tokensOf (ns.take k), m) := by
  have hlen := length_take_childrenAt h
  obtain ⟨us, vs, hold, htok, hnew⟩ := exists_contents?_exchange (childrenAt_ne_nil h)
  refine ⟨us ++ Node.tokensOf ((d.childrenAt up).take i),
    Node.tokensOf ((d.childrenAt up).drop (i + 1)) ++ vs, ?_, ?_, fun ns => ⟨?_, fun k m hk => ?_⟩⟩
  · rw [Trail.map_reverse_cons]
    exact Node.reach?_concat hold h
  · rw [htok, Node.tokensOf_eq_of_getElem? h]
    simp only [List.append_assoc]
  · rw [splice, (hnew _).2]
    simp only [Node.tokensOf_append, List.append_assoc]
  · have hklt := (List.getElem?_eq_some_iff.1 hk).1
    have hget : ((d.childrenAt up).take i ++ (ns ++ (d.childrenAt up).drop (i + 1)))[i + k]? =
        some m := by
      rw [List.getElem?_append_right (by omega), hlen, Nat.add_sub_cancel_left,
        List.getElem?_append_left hklt, hk]
    have htake : ((d.childrenAt up).take i ++ (ns ++ (d.childrenAt up).drop (i + 1))).take (i + k) =
        (d.childrenAt up).take i ++ ns.take k := by
      rw [List.take_append, hlen, Nat.add_sub_cancel_left,
        List.take_of_length_le (l := (d.childrenAt up).take i) (by omega),
        List.take_append_of_le_length (by omega)]
    rw [Trail.map_reverse_cons, splice, Node.reach?_concat (hnew _).1 hget, htake,
      Node.tokensOf_append, List.append_assoc]

/-- How a document `d'` is after a splice. `us` are the tokens before the node `n` with index `i` at
    the trail `up`, and `vs` those behind it. The nodes are in its place in the row. A form around
    the row is as it was but for its children, and of these only the one on the way has changed.
    What is neither around the place nor inside the node is the same. -/
structure Spliced (d d' : Document) (i : Nat) (up : Trail) (n : Node) (nodes : List Node)
    (us vs : List Token) : Prop where
  source : d'.source = d.source
  place : Node.reach? d.nodes ((i :: up).reverse.map Int.ofNat) = some (us, n)
  before : Node.tokensOf d.nodes = us ++ n.tokens ++ vs
  text : d'.text = Token.textOf us ++ Node.textOf nodes ++ Token.textOf vs
  row : d'.childrenAt up =
    (d.childrenAt up).take i ++ (nodes ++ (d.childrenAt up).drop (i + 1))
  around : ∀ k t, (k :: t) <:+ up → ∃ m, d.node? k t = some m ∧
    d'.childrenAt t = (d.childrenAt t).set k (m.withChildren (d'.childrenAt (k :: t)))
  apart : ∀ t, ¬ (i :: up) <:+ t → ¬ t <:+ (i :: up) →
    d'.nodeAt? (Trail.moved i up nodes.length t) = d.nodeAt? t

/-- A splice changes nothing but what it puts in the place. -/
theorem exists_spliced (h : d.node? i up = some n) (nodes : List Node) :
    ∃ us vs, d.Spliced (d.splice i up nodes) i up n nodes us vs ∧
      ∀ k m, nodes[k]? = some m → (d.splice i up nodes).startOf? (i + k) up =
        some (Position.start.advance (Token.textOf us ++ Node.textOf (nodes.take k))) := by
  obtain ⟨us, vs, hreach, htok, hnew⟩ := exists_reach?_splice h
  refine ⟨us, vs, ⟨rfl, hreach, htok, ?_, childrenAt_splice h nodes, ?_, ?_⟩, ?_⟩
  · rw [text, Node.textOf, (hnew nodes).1, Token.textOf_append, Token.textOf_append]
    rfl
  · intro k t hs
    exact exists_childrenAt_splice h hs nodes
  · intro t hinside haround
    exact nodeAt?_splice_moved h hinside haround nodes
  · intro k m hk
    rw [startOf?_eq, start?, (hnew nodes).2 k m hk, Option.map_some]
    simp only [Token.textOf_append, Node.textOf]

end Document

namespace PositionIndex

/-! ## The index of the old document beside that of the new one -/

/-- The index once questions have been put to it. -/
def after (x : PositionIndex) (paths : List (List Int)) : PositionIndex :=
  paths.foldl (fun x path => (x.position path).2) x

/-- The answers to questions put to one of two indexes each, one after the other. -/
def positionsOfBoth (x y : PositionIndex) : List (List Int ⊕ List Int) → List (Option Position)
  | [] => []
  | .inl path :: asked =>
    let (p, x) := x.position path
    p :: positionsOfBoth x y asked
  | .inr path :: asked =>
    let (p, y) := y.position path
    p :: positionsOfBoth x y asked

theorem sound_after {x : PositionIndex} (h : Starts.Sound x.document x.known)
    (paths : List (List Int)) :
    (x.after paths).document = x.document ∧ Starts.Sound x.document (x.after paths).known := by
  induction paths generalizing x with
  | nil => exact ⟨rfl, h⟩
  | cons path paths ih =>
    obtain ⟨-, hs⟩ := Starts.answers x.document path x.known h
    exact ih (x := (x.position path).2) hs

/-- Each of two indexes answers about its own document, whatever the other is asked. -/
theorem positionsOfBoth_eq_map {x y : PositionIndex} (hx : Starts.Sound x.document x.known)
    (hy : Starts.Sound y.document y.known) (asked : List (List Int ⊕ List Int)) :
    x.positionsOfBoth y asked = asked.map (Sum.elim x.document.start? y.document.start?) := by
  induction asked generalizing x y with
  | nil => rfl
  | cons question asked ih =>
    cases question with
    | inl path =>
      obtain ⟨hp, hs⟩ := Starts.answers x.document path x.known hx
      rw [positionsOfBoth, List.map_cons, position]
      simp only [hp, Sum.elim_inl]
      rw [ih hs hy]
    | inr path =>
      obtain ⟨hp, hs⟩ := Starts.answers y.document path y.known hy
      rw [positionsOfBoth, List.map_cons, position]
      simp only [hp, Sum.elim_inr]
      rw [ih hx hs]

end PositionIndex

namespace Cursor

variable {c : Cursor} {i : Nat} {up : Trail} {n m : Node} {ms rest nodes : List Node}

/-! ## Where the new cursor is -/

theorem formFrom?_eq_none (h : ∀ m ∈ nodes, m.isTrivia = true) : formFrom? nodes 0 = none := by
  rw [formFrom?, List.drop_zero, List.findIdx?_eq_none_iff.2 fun m hm => by simp [h m hm]]
  rfl

theorem formFrom?_append_cons (h : ∀ k ∈ ms, k.isTrivia = true) (hm : m.isTrivia = false) :
    formFrom? (ms ++ m :: rest) 0 = some ms.length := by
  have hnone : (ms.findIdx? fun n => !n.isTrivia) = none :=
    List.findIdx?_eq_none_iff.2 fun k hk => by simp [h k hk]
  rw [formFrom?, List.drop_zero, List.findIdx?_append, hnone, List.findIdx?_cons]
  simp [hm]

/-- Whatever nodes take the place of the one under a cursor, and wherever that is, nothing changes
    but the place (`Document.Spliced`). The new cursor is on the first form among the nodes, which
    starts behind the tokens before the place and the trivia before it; without a form among them it
    is at the end marker. The index of the old document, whatever it was asked before, goes on with
    the answers it gave, and that of the new document answers from the new text. -/
theorem splice_frame (hp : c.place = some (i, up)) (hn : c.node? = some n) (nodes : List Node) :
    ∃ c' us vs, c.splice nodes = .ok c' ∧
      c.document.Spliced c'.document i up n nodes us vs ∧
      ((∀ m ∈ nodes, m.isTrivia = true) → c'.isEnd = true) ∧
      (∀ ms m rest, nodes = ms ++ m :: rest → (∀ k ∈ ms, k.isTrivia = true) → m.isTrivia = false →
        c'.place = some (i + ms.length, up) ∧ c'.node? = some m ∧
        c'.position? =
          some (Position.start.advance (Token.textOf us ++ Node.textOf ms))) ∧
      ∀ before asked,
        ((PositionIndex.ofDocument c.document).after before).positionsOfBoth
            (PositionIndex.ofDocument c'.document) asked =
          asked.map (Sum.elim c.document.start? c'.document.start?) := by
  have hnode : c.document.node? i up = some n := by
    rw [node?, hp, Option.bind_some] at hn
    exact hn
  obtain ⟨us, vs, hspliced, hstart⟩ := Document.exists_spliced hnode nodes
  have hc : c.splice nodes = .ok ⟨c.document.splice i up nodes,
      (formFrom? nodes 0).map fun k => (i + k, up)⟩ := by
    simp only [splice, hp]
  refine ⟨_, us, vs, hc, hspliced, fun htriv => ?_, fun ms m rest hsplit htriv hm => ?_,
    fun before asked => ?_⟩
  · rw [isEnd, formFrom?_eq_none htriv]
    rfl
  · subst hsplit
    have hget : (ms ++ m :: rest)[ms.length]? = some m := by simp
    have hfirst := hstart ms.length m hget
    rw [List.take_left] at hfirst
    simp only [node?, position?, formFrom?_append_cons htriv hm, Option.map_some, Option.bind_some]
    exact ⟨trivial, Document.node?_splice hnode hget, hfirst⟩
  · have hnothing : ∀ d : Document, Starts.Sound d [] := fun d path p hlookup => by cases hlookup
    obtain ⟨hdocument, hsound⟩ :=
      PositionIndex.sound_after (x := PositionIndex.ofDocument c.document) (hnothing _) before
    rw [PositionIndex.positionsOfBoth_eq_map (by rw [hdocument]; exact hsound) (hnothing _),
      hdocument]
    rfl

/-- Into a vector on the second line, where a blank and two symbols take the place of one. -/
theorem splice_frame_inside_vector :
    let d : Document := ⟨[.delimited .list ⟨.opener, ['('], 0⟩ [.leaf ⟨.atom, ['a'], 1⟩,
      .leaf ⟨.newline, ['\n'], 2⟩, .delimited .vector ⟨.opener, ['['], 3⟩ [.leaf ⟨.atom, ['b'], 4⟩,
        .leaf ⟨.whitespace, [' '], 5⟩, .leaf ⟨.atom, ['c'], 6⟩] ⟨.closer, [']'], 7⟩]
      ⟨.closer, [')'], 8⟩],
      "(a\n[b c])".toList⟩
    let c : Cursor := ⟨d, some (0, [2, 0])⟩
    let nodes : List Node := [.leaf ⟨.whitespace, [' '], 0⟩, .leaf ⟨.atom, ['x'], 1⟩,
      .leaf ⟨.whitespace, [' '], 2⟩, .leaf ⟨.atom, ['y'], 3⟩]
    ∃ c', c.splice nodes = .ok c' ∧ c'.document.text = "(a\n[ x y c])".toList ∧
      c'.place = some (1, [2, 0]) ∧ c'.position? = some ⟨5, 2, 3⟩ ∧
      c'.document.nodeAt? [5, 2, 0] = d.nodeAt? [2, 2, 0] ∧
      ((PositionIndex.ofDocument d).after [[0, 2]]).positionsOfBoth
        (PositionIndex.ofDocument c'.document) [.inl [0, 2, 2], .inr [0, 2, 5], .inl [0, 2, 2]] =
          [some ⟨6, 2, 4⟩, some ⟨9, 2, 7⟩, some ⟨6, 2, 4⟩] := by
  intro d c nodes
  have hp : c.place = some (0, [2, 0]) := rfl
  obtain ⟨c', us, vs, hc, hspliced, -, hfirst, hindex⟩ := splice_frame hp rfl nodes
  obtain ⟨hplace, -, -⟩ := hfirst [.leaf ⟨.whitespace, [' '], 0⟩] _ _ rfl (by decide) rfl
  have hapart := hspliced.apart [2, 2, 0] (by decide) (by decide)
  have hboth := hindex [[0, 2]] [.inl [0, 2, 2], .inr [0, 2, 5], .inl [0, 2, 2]]
  cases hc
  exact ⟨_, rfl, by rfl, hplace, by rfl, hapart, hboth.trans (by rfl)⟩

end Cursor

end FormEdit
