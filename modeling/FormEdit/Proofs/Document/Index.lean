import FormEdit.Document.Cursor
import FormEdit.Document.Index
import FormEdit.Proofs.Document.Lossless
import FormEdit.Proofs.Position
import Mathlib

set_option autoImplicit false

/-! # What an index of positions answers

A path leads to a node, or to none, and the text of all tokens before the node says where it starts
(`Document.start?`). All that an index notes are such starts (`Starts.Sound`). A question keeps that,
also when it fails on the way, so what was asked before has no effect on an answer
(`PositionIndex.positions_eq`). -/

namespace FormEdit

namespace Node

/-! ## Where a path leads -/

/-- The first token of a node, which stands before its children. -/
def opening : Node → Token
  | leaf t => t
  | delimited _ o _ _ => o
  | marked m _ => m

/-- The node with an index among others, and the tokens of those before it. -/
def child? (ns : List Node) (i : Int) : Option (List Token × Node) :=
  if i < 0 then none else ns[i.toNat]?.map fun n => (tokensOf (ns.take i.toNat), n)

/-- The node to which a path leads, and all tokens before it. The empty path leads to no node. -/
def reach? (ns : List Node) : List Int → Option (List Token × Node)
  | [] => none
  | [i] => child? ns i
  | i :: j :: rest =>
    (child? ns i).bind fun (us, n) =>
      (reach? n.children (j :: rest)).map fun (vs, m) => (us ++ n.opening :: vs, m)

/-- What is inside the form at a path, and all tokens before that. The empty path stands for what is
    around all nodes. -/
def contents? (ns : List Node) : List Int → Option (List Token × List Node)
  | [] => some ([], ns)
  | i :: rest => (reach? ns (i :: rest)).map fun (us, n) => (us ++ [n.opening], n.children)

variable {ns cs : List Node} {us vs : List Token} {n m : Node} {i : Int} {path rest : List Int}

theorem text_opening (n : Node) : n.opening.text = n.openText := by
  cases n <;> rfl

/-- A node has its opening token first, and then its children. -/
theorem exists_tokens_eq (n : Node) :
    ∃ vs, n.tokens = n.opening :: (tokensOf n.children ++ vs) := by
  cases n with
  | leaf t => exact ⟨[], rfl⟩
  | delimited b o cs c => exact ⟨[c], by simp [opening, children]⟩
  | marked m cs => exact ⟨[], by simp [opening, children]⟩

theorem child?_natCast (ns : List Node) (k : Nat) :
    child? ns k = ns[k]?.map fun n => (tokensOf (ns.take k), n) := by
  rw [child?, if_neg (by omega), Int.toNat_natCast]

theorem reach?_singleton (ns : List Node) (i : Int) : reach? ns [i] = child? ns i := rfl

/-- A path that starts with no index leads nowhere. -/
theorem reach?_eq_none (h : child? ns i = none) : reach? ns (i :: rest) = none := by
  cases rest with
  | nil => exact h
  | cons j rest => rw [reach?, h, Option.bind_none]

theorem reach?_cons (h : child? ns i = some (us, n)) (hrest : rest ≠ []) :
    reach? ns (i :: rest) =
      (reach? n.children rest).map fun (vs, m) => (us ++ n.opening :: vs, m) := by
  cases rest with
  | nil => exact absurd rfl hrest
  | cons j rest => rw [reach?, h, Option.bind_some]

/-- A path that leads on from a form is a path among what is inside it. -/
theorem reach?_append (ns : List Node) (path : List Int) (hrest : rest ≠ []) :
    reach? ns (path ++ rest) = (contents? ns path).bind fun (us, cs) =>
      (reach? cs rest).map fun (vs, m) => (us ++ vs, m) := by
  induction path generalizing ns with
  | nil => simp [contents?]
  | cons i path ih =>
    cases hi : child? ns i with
    | none =>
      rw [List.cons_append, reach?_eq_none hi, contents?, reach?_eq_none hi]
      rfl
    | some p =>
      obtain ⟨vs, n⟩ := p
      cases path with
      | nil =>
        rw [List.singleton_append, reach?_cons hi hrest, contents?, reach?_singleton, hi]
        simp only [Option.map_some, Option.bind_some, List.append_assoc, List.singleton_append]
      | cons j path =>
        rw [List.cons_append, reach?_cons hi (by simp), ih, contents?, contents?,
          reach?_cons hi (by simp)]
        cases reach? n.children (j :: path) with
        | none => rfl
        | some q =>
          simp only [Option.map_some, Option.bind_some, Option.map_map]
          congr 1
          funext r
          simp only [Function.comp_apply, List.append_assoc, List.cons_append]

/-- One more index leads to one of the nodes inside a form. -/
theorem reach?_concat (h : contents? ns path = some (us, cs)) {k : Nat} (hk : cs[k]? = some n) :
    reach? ns (path ++ [(k : Int)]) = some (us ++ tokensOf (cs.take k), n) := by
  rw [reach?_append _ _ (by simp), h]
  simp only [Option.bind_some, reach?_singleton, child?_natCast, hk, Option.map_some]

theorem contents?_of_reach? (h : reach? ns path = some (us, n)) :
    contents? ns path = some (us ++ [n.opening], n.children) := by
  cases path with
  | nil => cases h
  | cons i rest => rw [contents?, h, Option.map_some]

theorem exists_tokensOf_of_child? (h : child? ns i = some (us, n)) :
    ∃ vs, tokensOf ns = us ++ n.tokens ++ vs := by
  rw [child?] at h
  split at h
  · cases h
  · obtain ⟨m, hm, heq⟩ := Option.map_eq_some_iff.1 h
    cases heq
    exact ⟨_, tokensOf_eq_of_getElem? hm⟩

/-- The tokens before a node to which a path leads are the first of all tokens, and its own come
    next. -/
theorem exists_tokensOf_of_reach? (h : reach? ns path = some (us, n)) :
    ∃ vs, tokensOf ns = us ++ n.tokens ++ vs := by
  induction path generalizing ns us with
  | nil => cases h
  | cons i path ih =>
    cases path with
    | nil => exact exists_tokensOf_of_child? h
    | cons j path =>
      obtain ⟨⟨ws, m⟩, hm, hreach⟩ := Option.bind_eq_some_iff.1 h
      obtain ⟨⟨xs, n'⟩, hn', heq⟩ := Option.map_eq_some_iff.1 hreach
      cases heq
      obtain ⟨behind, hns⟩ := exists_tokensOf_of_child? hm
      obtain ⟨after, hopen⟩ := m.exists_tokens_eq
      obtain ⟨between, hcs⟩ := ih hn'
      refine ⟨between ++ after ++ behind, ?_⟩
      rw [hns, hopen, hcs]
      simp only [List.append_assoc, List.cons_append]

end Node

namespace Document

/-- Where the node starts to which a path leads: behind the text of all tokens before it. -/
def start? (d : Document) (path : List Int) : Option Position :=
  (Node.reach? d.nodes path).map fun (us, _) => Position.start.advance (Token.textOf us)

end Document

namespace Starts

variable {d : Document} {front path rest : List Int} {known : Starts} {us : List Token}
  {ns as ms bs : List Node} {k : Nat} {p : Position}

/-- Whether all that is known is where nodes start. -/
def Sound (d : Document) (known : Starts) : Prop :=
  ∀ path p, known.lookup path = some p → d.start? path = some p

theorem Sound.cons (h : Sound d known) (hp : d.start? path = some p) :
    Sound d ((path, p) :: known) := by
  intro path' p' hlookup
  rw [List.lookup_cons] at hlookup
  split at hlookup
  · next heq =>
    rw [beq_iff_eq.1 heq, hp]
    exact hlookup
  · exact h path' p' hlookup

/-! ## Noting the starts of siblings -/

/-- A node inside a form starts behind those before it there. -/
theorem start?_child (hc : Node.contents? d.nodes front = some (us, as ++ bs)) (hbs : bs ≠ []) :
    d.start? (child front as.length) =
      some (Position.start.advance (Token.textOf (us ++ Node.tokensOf as))) := by
  cases bs with
  | nil => exact absurd rfl hbs
  | cons b bs =>
    have hget : (as ++ b :: bs)[as.length]? = some b := by simp
    rw [Document.start?, child, Node.reach?_concat hc hget, List.take_left, Option.map_some]

theorem nearest_le (known : Starts) (front : List Int) (k : Nat) : nearest known front k ≤ k := by
  induction k with
  | zero => exact Nat.le_refl 0
  | succ k ih =>
    rw [nearest]
    split
    · exact Nat.le_refl _
    · exact Nat.le_succ_of_le ih

/-- Where no sibling is known the search ends at the first. -/
theorem nearest_eq_zero (h : known.lookup (child front (nearest known front k)) = none) :
    nearest known front k = 0 := by
  induction k with
  | zero => rfl
  | succ k ih =>
    rw [nearest] at h ⊢
    split at h
    · next hk =>
      rw [h] at hk
      cases hk
    · next hk =>
      rw [if_neg hk]
      exact ih h

/-- Moving over nodes notes where nodes start, at the end where the node behind them does. -/
theorem note_spec (hc : Node.contents? d.nodes front = some (us, as ++ ms ++ bs)) (hbs : bs ≠ [])
    (hs : Sound d known) (hk : (known.lookup (child front as.length)).isSome) :
    Sound d (note front ms as.length
      (Position.start.advance (Token.textOf (us ++ Node.tokensOf as))) known) ∧
    ((note front ms as.length
      (Position.start.advance (Token.textOf (us ++ Node.tokensOf as))) known).lookup
        (child front (as.length + ms.length))).isSome := by
  induction ms generalizing as known with
  | nil => exact ⟨hs, hk⟩
  | cons m ms ih =>
    have hsplit : as ++ m :: ms ++ bs = as ++ [m] ++ ms ++ bs := by simp
    have hlen : (as ++ [m]).length = as.length + 1 := by simp
    have hnext : (Position.start.advance (Token.textOf (us ++ Node.tokensOf as))).advance m.text =
        Position.start.advance (Token.textOf (us ++ Node.tokensOf (as ++ [m]))) := by
      simp [Node.text]
    rw [hsplit] at hc
    have hstart : d.start? (child front (as ++ [m]).length) =
        some (Position.start.advance (Token.textOf (us ++ Node.tokensOf (as ++ [m])))) :=
      start?_child (by rw [← List.append_assoc]; exact hc) (by simp [hbs])
    have hrest := ih hc (hs.cons hstart) (by simp)
    rw [hlen, ← hnext] at hrest
    rw [List.length_cons, Nat.add_comm ms.length 1, ← Nat.add_assoc]
    exact hrest

/-- The start of a child can always be reached, if that of the first child can. -/
theorem reachChild_spec {first : Starts → Option Position × Starts}
    (hc : Node.contents? d.nodes front = some (us, ns)) (hk : k < ns.length)
    (hfirst : ∀ known, Sound d known →
      (first known).1 = some (Position.start.advance (Token.textOf us)) ∧ Sound d (first known).2)
    (hs : Sound d known) :
    ∃ known', reachChild front ns first k known = (true, known') ∧ Sound d known' ∧
      (known'.lookup (child front k)).isSome := by
  have hle := nearest_le known front k
  have hsplit : ns = ns.take (nearest known front k) ++
      (ns.drop (nearest known front k)).take (k - nearest known front k) ++ ns.drop k := by
    have hdrop : ns.drop k = (ns.drop (nearest known front k)).drop
        (k - nearest known front k) := by
      rw [List.drop_drop]
      congr 1
      omega
    rw [hdrop, List.append_assoc, List.take_append_drop, List.take_append_drop]
  have hbs : ns.drop k ≠ [] := by
    intro hnil
    have := List.drop_eq_nil_iff.1 hnil
    omega
  have hlen : (ns.take (nearest known front k)).length = nearest known front k := by
    rw [List.length_take]
    omega
  have hend : nearest known front k +
      ((ns.drop (nearest known front k)).take (k - nearest known front k)).length = k := by
    rw [List.length_take, List.length_drop]
    omega
  rw [hsplit] at hc
  have hstart := start?_child (by rw [← List.append_assoc]; exact hc) (by simp [hbs])
  rw [hlen] at hstart
  rw [reachChild]
  cases hj : known.lookup (child front (nearest known front k)) with
  | some p =>
    rw [hs _ _ hj, Option.some.injEq] at hstart
    have hnote := note_spec hc hbs hs (by rw [hlen, hj]; rfl)
    rw [hlen, hend, ← hstart] at hnote
    exact ⟨_, rfl, hnote⟩
  | none =>
    rw [nearest_eq_zero hj] at hc hstart hend ⊢
    obtain ⟨hp, hs'⟩ := hfirst known hs
    cases hr : first known with
    | mk q known' =>
      rw [hr] at hp hs'
      cases hp
      have hnote := note_spec hc hbs (hs'.cons hstart) (by simp)
      simp only [List.take_zero, Node.tokensOf_nil, List.append_nil, List.length_nil] at hnote
      rw [hend] at hnote
      exact ⟨_, rfl, hnote⟩

/-! ## Going down a path -/

/-- Whether the answer about a path is right whatever is known, and what is known stays right. -/
def Answers (d : Document) (path : List Int) : Prop :=
  ∀ known, Sound d known →
    (find d path known).1 = d.start? path ∧ Sound d (find d path known).2

/-- Where the first node inside a form starts, from the start of the form. -/
theorem first_spec {opening : List Char} (hc : Node.contents? d.nodes front = some (us, ns))
    (hopen : front ≠ [] →
      (d.start? front).map (·.advance opening) = some (Position.start.advance (Token.textOf us)))
    (hans : front ≠ [] → Answers d front) (hs : Sound d known) {first : Option Position × Starts}
    (hfirst : first = if front.isEmpty then (some .start, known)
      else ((find d front known).1.map (·.advance opening), (find d front known).2)) :
    first.1 = some (Position.start.advance (Token.textOf us)) ∧ Sound d first.2 := by
  subst hfirst
  cases front with
  | nil =>
    cases hc
    exact ⟨rfl, hs⟩
  | cons i front =>
    obtain ⟨hp, hs'⟩ := hans (by simp) known hs
    rw [List.isEmpty_cons, if_neg (by simp), hp]
    exact ⟨hopen (by simp), hs'⟩

/-- Going down ends with the start of the last node known, or fails where no node is. -/
theorem descend_spec {opening : List Char} (hc : Node.contents? d.nodes front = some (us, ns))
    (hopen : front ≠ [] →
      (d.start? front).map (·.advance opening) = some (Position.start.advance (Token.textOf us)))
    (hans : ∀ path, path.length < front.length + rest.length → Answers d path)
    (hs : Sound d known) (hk : front ≠ [] → (known.lookup front).isSome) :
    Sound d (descend d front opening ns rest known).2 ∧
    ((descend d front opening ns rest known).1 = true → front ++ rest ≠ [] →
      ((descend d front opening ns rest known).2.lookup (front ++ rest)).isSome) ∧
    ((descend d front opening ns rest known).1 = false → d.start? (front ++ rest) = none) := by
  induction rest generalizing front us ns opening known with
  | nil =>
    rw [descend, List.append_nil]
    exact ⟨hs, fun _ => hk, fun h => by cases h⟩
  | cons i rest ih =>
    have hnone (h : Node.reach? ns (i :: rest) = none) : d.start? (front ++ i :: rest) = none := by
      rw [Document.start?, Node.reach?_append _ _ (by simp), hc]
      simp only [Option.bind_some, h, Option.map_none]
    rw [descend]
    by_cases hi : i < 0
    · rw [if_pos hi]
      refine ⟨hs, fun h => (by cases h), fun _ => hnone (Node.reach?_eq_none ?_)⟩
      rw [Node.child?, if_pos hi]
    rw [if_neg hi]
    have hcast : (i.toNat : Int) = i := by omega
    cases hn : ns[i.toNat]? with
    | none =>
      refine ⟨hs, fun h => (by cases h), fun _ => hnone (Node.reach?_eq_none ?_)⟩
      rw [Node.child?, if_neg hi, hn, Option.map_none]
    | some n =>
      have hlt := (List.getElem?_eq_some_iff.1 hn).1
      have hchild := Node.child?_natCast ns i.toNat
      rw [hn, Option.map_some] at hchild
      have hreach := Node.reach?_concat hc hn
      rw [hcast] at hchild hreach
      obtain ⟨known', hr, hs', hk'⟩ := reachChild_spec hc hlt
        (fun known hs => first_spec hc hopen (fun _ => hans _ (by simp)) hs rfl) hs
      rw [child, hcast] at hk'
      simp only [hr]
      by_cases hleaf : (!rest.isEmpty && !n.isComposite) = true
      · rw [if_pos hleaf]
        refine ⟨hs', fun h => (by cases h), fun _ => hnone ?_⟩
        -- nothing is inside a single token, so no index leads on from it
        cases n with
        | leaf t =>
          cases rest with
          | nil => cases hleaf
          | cons j rest =>
            rw [Node.reach?_cons hchild (by simp),
              Node.reach?_eq_none (by simp [Node.child?, Node.children])]
            rfl
        | delimited b o cs c => simp [Node.isComposite] at hleaf
        | marked m cs => simp [Node.isComposite] at hleaf
      · rw [if_neg hleaf]
        have hopen' : (d.start? (front ++ [i])).map (·.advance n.openText) = some
            (Position.start.advance (Token.textOf (us ++ Node.tokensOf (ns.take i.toNat) ++
              [n.opening]))) := by
          rw [Document.start?, hreach, Option.map_some, Option.map_some]
          simp [Node.text_opening]
        have hans' : ∀ path, path.length < (front ++ [i]).length + rest.length →
            Answers d path := by
          intro path hpath
          refine hans path ?_
          simp only [List.length_append, List.length_cons, List.length_nil] at hpath ⊢
          omega
        have hrest := ih (Node.contents?_of_reach? hreach) (fun _ => hopen') hans' hs' fun _ => hk'
        rw [List.append_assoc, List.singleton_append] at hrest
        exact hrest

/-- Every question is answered with the start of the node to which the path leads. -/
theorem answers (d : Document) (path : List Int) : Answers d path := by
  induction hlen : path.length using Nat.strongRecOn generalizing path with
  | ind len ih =>
    intro known hs
    rw [find]
    cases hlookup : known.lookup path with
    | some p => exact ⟨(hs path p hlookup).symm, hs⟩
    | none =>
      by_cases hempty : path.isEmpty = true
      · rw [List.isEmpty_iff.1 hempty]
        exact ⟨rfl, hs⟩
      · have hne : path ≠ [] := by simpa using hempty
        have hdown := @descend_spec d [] path known [] d.nodes [] rfl (fun h => absurd rfl h)
          (fun path' h => ih _ (by simpa [hlen] using h) path' rfl) hs (fun h => absurd rfl h)
        rw [List.nil_append] at hdown
        obtain ⟨hs', hfound, hlost⟩ := hdown
        simp only [if_neg hempty]
        cases hr : descend d [] [] d.nodes path known with
        | mk found known' =>
          rw [hr] at hs' hfound hlost
          cases found with
          | false => exact ⟨(hlost rfl).symm, hs'⟩
          | true =>
            obtain ⟨p, hp⟩ := Option.isSome_iff_exists.1 (hfound rfl hne)
            refine ⟨?_, hs'⟩
            rw [hs' path p hp]
            exact hp

end Starts

namespace Document

variable {d : Document} {path : List Int} {us : List Token} {n : Node}

/-- What is inside the form at a trail is what is inside the form at the same path. -/
theorem inside?_eq (d : Document) (up : Trail) :
    d.inside? up = (Node.contents? d.nodes (up.reverse.map Int.ofNat)).map fun (us, cs) =>
      (cs, Position.start.advance (Token.textOf us)) := by
  induction up with
  | nil => rfl
  | cons i up ih =>
    have hne : ∀ {path : List Int}, Node.contents? d.nodes (path ++ [(i : Int)]) =
        (Node.reach? d.nodes (path ++ [(i : Int)])).map fun (us, n) =>
          (us ++ [n.opening], n.children) := by
      intro path
      cases path <;> rfl
    rw [inside?, ih, List.reverse_cons, List.map_append, List.map_singleton]
    simp only [Int.ofNat_eq_natCast]
    rw [hne, Node.reach?_append _ _ (by simp)]
    cases Node.contents? d.nodes (up.reverse.map fun j : Nat => (j : Int)) with
    | none => rfl
    | some p =>
      obtain ⟨us, cs⟩ := p
      simp only [Option.map_some, Option.bind_some, Node.reach?_singleton, Node.child?_natCast]
      cases cs[i]? <;> simp [Node.textOf, Node.text_opening]

/-- A trail and the same path from the top say where one node starts. -/
theorem startOf?_eq (d : Document) (i : Nat) (up : Trail) :
    d.startOf? i up = d.start? ((i :: up).reverse.map Int.ofNat) := by
  rw [startOf?, inside?_eq, start?, List.reverse_cons, List.map_append,
    Node.reach?_append _ _ (by simp)]
  cases Node.contents? d.nodes (up.reverse.map Int.ofNat) with
  | none => rfl
  | some p =>
    obtain ⟨us, cs⟩ := p
    simp only [Option.map_some, Option.bind_some, List.map_singleton, Int.ofNat_eq_natCast,
      Node.reach?_singleton, Node.child?_natCast]
    cases cs[i]? <;> simp [Node.textOf]

/-- In a document that was read a node starts at the offset of its first token, on the line and in
    the column that are there in the source. -/
theorem start?_of_parse {source : List Char} (h : parse source = .ok d)
    (hn : Node.reach? d.nodes path = some (us, n)) :
    source.take n.opening.offset.toNat = Token.textOf us ∧
    d.start? path = some ⟨n.opening.offset,
      1 + (source.take n.opening.offset.toNat).count '\n',
      1 + ((source.take n.opening.offset.toNat).reverse.takeWhile (· ≠ '\n')).length⟩ := by
  obtain ⟨vs, htok⟩ := Node.exists_tokensOf_of_reach? hn
  obtain ⟨ws, hopen⟩ := n.exists_tokens_eq
  have hsplit : Node.tokensOf d.nodes =
      us ++ n.opening :: (Node.tokensOf n.children ++ ws ++ vs) := by
    rw [htok, hopen]
    simp only [List.append_assoc, List.cons_append]
  have htiles := tiles_of_parse h
  rw [hsplit] at htiles
  have hoff : n.opening.offset = (Token.textOf us).length := htiles.offset_eq
  have htake : source.take n.opening.offset.toNat = Token.textOf us := by
    have htext : Node.textOf d.nodes = source := (parse_eq_ok_iff.1 h).2.1
    rw [← htext, Node.textOf, hsplit, Token.textOf_append, hoff, Int.toNat_natCast, List.take_left]
  have hoffset := Position.advance_offset .start (Token.textOf us)
  have hline := Position.advance_line .start (Token.textOf us)
  have hcolumn := Position.start_advance_column (Token.textOf us)
  refine ⟨htake, ?_⟩
  rw [start?, hn, Option.map_some, htake]
  cases hp : Position.start.advance (Token.textOf us) with
  | mk offset line column =>
    rw [hp] at hoffset hline hcolumn
    simp only [Position.start, Int.zero_add] at hoffset hline hcolumn
    simp only [hp, hoffset, hline, hcolumn, hoff]

end Document

namespace PositionIndex

/-- Questions to one index are answered one by one as if each were the first. -/
theorem positions_eq_map {x : PositionIndex} (h : Starts.Sound x.document x.known)
    (paths : List (List Int)) : x.positions paths = paths.map x.document.start? := by
  induction paths generalizing x with
  | nil => rfl
  | cons path paths ih =>
    obtain ⟨hp, hs⟩ := Starts.answers x.document path x.known h
    rw [positions, List.map_cons, position]
    simp only [hp]
    rw [ih hs]

/-- Whatever questions are put to the index of a document, and in whatever order, each is answered
    with the position behind the text of all tokens before the node to which its path leads, or with
    none if the path leads to no node. In a document that was read this is the place of the first
    token of the node in the source. -/
theorem positions_eq (d : Document) (paths : List (List Int)) :
    (ofDocument d).positions paths = paths.map (fun path =>
      (Node.reach? d.nodes path).map fun (us, _) => Position.start.advance (Token.textOf us)) ∧
    ∀ path us n, Node.reach? d.nodes path = some (us, n) →
      (∃ vs, Node.tokensOf d.nodes = us ++ n.tokens ++ vs) ∧
      ∀ source, Document.parse source = .ok d →
        n.tokens.head? = some n.opening ∧ source.take n.opening.offset.toNat = Token.textOf us ∧
        Position.start.advance (Token.textOf us) = ⟨n.opening.offset,
          1 + (source.take n.opening.offset.toNat).count '\n',
          1 + ((source.take n.opening.offset.toNat).reverse.takeWhile (· ≠ '\n')).length⟩ := by
  refine ⟨positions_eq_map (x := ofDocument d) (fun path p h => by cases h) paths, ?_⟩
  intro path us n hn
  refine ⟨Node.exists_tokensOf_of_reach? hn, ?_⟩
  intro source h
  obtain ⟨htake, hstart⟩ := Document.start?_of_parse h hn
  rw [Document.start?, hn, Option.map_some, Option.some.injEq] at hstart
  obtain ⟨vs, hopen⟩ := n.exists_tokens_eq
  exact ⟨by rw [hopen]; rfl, htake, hstart⟩

/-- Behind a string over two lines, where first a path that leads through a symbol is asked. -/
theorem positions_eq_behind_lines :
    let d : Document := ⟨[.delimited .list ⟨.opener, ['('], 0⟩ [.leaf ⟨.string, "\"\n\"".toList, 1⟩,
      .leaf ⟨.whitespace, [' '], 4⟩, .leaf ⟨.atom, ['a'], 5⟩] ⟨.closer, [')'], 6⟩],
      "(\"\n\" a)".toList⟩
    Document.parse "(\"\n\" a)".toList = .ok d ∧
    (ofDocument d).positions [[0, 2, 0], [0, 2], [0, -1], []] =
      [none, some ⟨5, 2, 3⟩, none, none] ∧
    ("(\"\n\" a)".toList).take 5 = "(\"\n\" ".toList := by
  intro d
  have hparse : Document.parse "(\"\n\" a)".toList = .ok d := by cbv
  obtain ⟨hmap, hreach⟩ := positions_eq d [[0, 2, 0], [0, 2], [0, -1], []]
  refine ⟨hparse, hmap.trans (by rfl), ?_⟩
  exact ((hreach [0, 2] _ _ rfl).2 _ hparse).2.1

end PositionIndex

end FormEdit
