import FormEdit.Proofs.Document.Proper
import FormEdit.Proofs.Token.Brackets

set_option autoImplicit false

/-! # Brackets that settle

Brackets settle when each closer is the one that is due and none is due at the end. Those of a proper
tree do (`Node.Proper.settle`). So what is well formed has as many openers as closers
(`excess_of_settle`), and at each place only one closer can come next (`closer_unique`). -/

namespace FormEdit

open Token

/-! ## What is due -/

/-- The closer of an opening bracket. -/
def closerOf? : Char → Option Char
  | '(' => some ')'
  | '[' => some ']'
  | '{' => some '}'
  | _ => none

/-- The closers that are due behind a bracket, the next one first, when the closers `due` are so
    before it. None if it is a closer that is not the next one due. -/
def settleOne (due : List Char) (b : Char) : Option (List Char) :=
  match closerOf? b with
  | some c => some (c :: due)
  | none => if due.head? = some b then some due.tail else none

/-- The closers that are due behind brackets in order. -/
def settle (due bs : List Char) : Option (List Char) := bs.foldlM settleOne due

/-- How many more closers are due behind a bracket. -/
def weight (b : Char) : Int := if (closerOf? b).isSome then 1 else -1

/-- By how many the openers among brackets outnumber the closers. -/
def excess : List Char → Int
  | [] => 0
  | b :: bs => weight b + excess bs

section Settle

variable {due due' as bs cs : List Char} {b : Char}

theorem settle_cons (due : List Char) (b : Char) (bs : List Char) :
    settle due (b :: bs) = (settleOne due b).bind fun due => settle due bs := List.foldlM_cons

theorem settle_append (due as bs : List Char) :
    settle due (as ++ bs) = (settle due as).bind fun due => settle due bs := List.foldlM_append

theorem settle_opener {c : Char} (hb : closerOf? b = some c) (due bs : List Char) :
    settle due (b :: bs) = settle (c :: due) bs := by
  rw [settle_cons, settleOne, hb]
  rfl

theorem settle_due (hb : closerOf? b = none) (due bs : List Char) :
    settle (b :: due) (b :: bs) = settle due bs := by
  rw [settle_cons, settleOne, hb]
  simp

@[simp] theorem excess_cons (b : Char) (bs : List Char) :
    excess (b :: bs) = weight b + excess bs := rfl

@[simp] theorem excess_append (as bs : List Char) : excess (as ++ bs) = excess as + excess bs := by
  induction as with
  | nil => simp [excess]
  | cons a as ih => rw [List.cons_append, excess_cons, excess_cons, ih, Int.add_assoc]

theorem weight_of_opener {c : Char} (hb : closerOf? b = some c) : weight b = 1 := by
  simp [weight, hb]

theorem weight_of_closer (hb : closerOf? b = none) : weight b = -1 := by simp [weight, hb]

/-- A closer that settles is the next one due. -/
theorem eq_of_settleOne (hb : closerOf? b = none) (h : settleOne due b = some due') :
    due = b :: due' := by
  rw [settleOne, hb] at h
  cases due with
  | nil => simp at h
  | cons c due => simp_all

theorem length_of_settleOne (h : settleOne due b = some due') :
    (due'.length : Int) = due.length + weight b := by
  cases hb : closerOf? b with
  | some c =>
    rw [settleOne, hb] at h
    cases h
    simp [weight, hb]
  | none =>
    rw [eq_of_settleOne hb h, weight_of_closer hb, List.length_cons]
    omega

/-- Openers add to the closers that are due and closers take from them. -/
theorem length_of_settle (h : settle due bs = some due') :
    (due'.length : Int) = due.length + excess bs := by
  induction bs generalizing due with
  | nil =>
    cases h
    simp [excess]
  | cons b bs ih =>
    rw [settle_cons, Option.bind_eq_some_iff] at h
    obtain ⟨due₁, hone, hrest⟩ := h
    rw [ih hrest, length_of_settleOne hone, excess_cons]
    omega

/-- Brackets that settle have as many openers as closers. -/
theorem excess_of_settle (h : settle [] bs = some []) : excess bs = 0 := by
  have := length_of_settle h
  simpa using this.symm

/-- Where some brackets settle behind a closer and others without the closer, the openers outnumber
    the closers by one more in the former. -/
theorem excess_behind_closer (hb : closerOf? b = none)
    (h : settle [] (as ++ b :: bs) = some []) (h' : settle [] (as ++ cs) = some []) :
    excess bs = excess cs + 1 := by
  have hwith := excess_of_settle h
  have hwithout := excess_of_settle h'
  rw [excess_append] at hwith hwithout
  rw [excess_cons, weight_of_closer hb] at hwith
  omega

/-- What settles with a closer does not settle without it. -/
theorem not_settle_of_dropped (hb : closerOf? b = none)
    (h : settle [] (as ++ b :: bs) = some []) : settle [] (as ++ bs) ≠ some [] := by
  intro h'
  have := excess_behind_closer hb h h'
  omega

/-- Where brackets settle, only one closer can come next. -/
theorem closer_unique {x y : Char} (hx : closerOf? x = none) (hy : closerOf? y = none)
    (h : settle [] (as ++ x :: bs) = some []) (h' : settle [] (as ++ y :: cs) = some []) :
    x = y := by
  rw [settle_append, Option.bind_eq_some_iff] at h h'
  obtain ⟨due, hdue, h⟩ := h
  obtain ⟨due', hdue', h'⟩ := h'
  rw [settle_cons, Option.bind_eq_some_iff] at h h'
  obtain ⟨xs, hxs, -⟩ := h
  obtain ⟨ys, hys, -⟩ := h'
  rw [eq_of_settleOne hx hxs] at hdue
  rw [eq_of_settleOne hy hys, hdue] at hdue'
  simp at hdue'
  exact hdue'.1

end Settle

/-! ## Proper trees -/

section Nodes

variable {n : Node} {ns : List Node}

/-- Nodes of which each leaves what is due as it is do so together. -/
theorem settle_tokensOf
    (h : ∀ n ∈ ns, ∀ due bs, settle due (bracketsOf n.tokens ++ bs) = settle due bs)
    (due bs : List Char) : settle due (bracketsOf (Node.tokensOf ns) ++ bs) = settle due bs := by
  induction ns with
  | nil => rfl
  | cons n ns ih =>
    obtain ⟨hn, hns⟩ := List.forall_mem_cons.1 h
    rw [Node.tokensOf_cons, bracketsOf_append, List.append_assoc, hn, ih hns]

/-- The brackets at the ends of a form are an opener and its closer. -/
theorem Bracket.exists_ends (b : Bracket) :
    ∃ x y, b.opening.getLast? = some x ∧ b.closing.getLast? = some y ∧ closerOf? x = some y ∧
      closerOf? y = none := by
  cases b <;> exact ⟨_, _, rfl, rfl, rfl, rfl⟩

/-- A proper node leaves what is due as it is. -/
theorem Node.Proper.settle (h : n.Proper) (due bs : List Char) :
    settle due (bracketsOf n.tokens ++ bs) = FormEdit.settle due bs := by
  induction h generalizing due bs with
  | @leaf t alone =>
    have hnone : t.bracket? = none := by
      rw [bracket?]
      cases hk : t.kind <;> first | rfl | simp [hk, TokenKind.standsAlone] at alone
    rw [Node.tokens_leaf, bracketsOf_cons, hnone]
    rfl
  | @delimited b o c cs opens opening closes closing _ ih =>
    obtain ⟨x, y, hopening, hclosing, hx, hy⟩ := b.exists_ends
    have hopener : o.bracket? = some x := by
      rw [← hopening, ← opening, bracket?, opens]
      rfl
    have hcloser : c.bracket? = some y := by
      rw [← hclosing, ← closing, bracket?, closes]
      rfl
    calc FormEdit.settle due (bracketsOf (Node.delimited b o cs c).tokens ++ bs)
        = FormEdit.settle due (x :: (bracketsOf (Node.tokensOf cs) ++ y :: bs)) := by
          simp [hopener, hcloser]
      _ = FormEdit.settle (y :: due) (bracketsOf (Node.tokensOf cs) ++ y :: bs) :=
          settle_opener hx due _
      _ = FormEdit.settle (y :: due) (y :: bs) := settle_tokensOf ih _ _
      _ = FormEdit.settle due bs := settle_due hy due bs
  | @marked m cs marks _ _ _ ih =>
    have hnone : m.bracket? = none := by
      rw [bracket?, marks]
      rfl
    rw [Node.tokens_marked, bracketsOf_cons, hnone]
    exact settle_tokensOf ih due bs

end Nodes

/-- A closer behind a mark is refused. -/
theorem Builder.not_mark_before_closer {b : Builder} {p : Position} {us vs : List Token}
    {t c : Token} {done : Builder × Position} (h : b.run p (us ++ t :: c :: vs) = .ok done)
    (hc : c.kind = .closer) : t.kind ≠ .mark := by
  induction us generalizing b p with
  | nil =>
    intro hk
    rw [List.nil_append, run, push, hk] at h
    simp only [run, push, hc, close] at h
    cases h
  | cons u us ih =>
    rw [List.cons_append, run] at h
    split at h
    · cases h
    · exact ih h

end FormEdit
