import FormEdit.Workspace.Basic

set_option autoImplicit false

/-! # What actions come to

An action is run step by step: what holds of the value of one step and the workspace behind it is
what the next one starts from, and a failure skips the steps behind it. What is said of a whole
action is put together from what is said of its steps (`Action.Meets.bind`). Some actions change
nothing (`Action.Looks`), and most keep the files; of such steps nothing else needs to be known
(`Action.KeepsTree`). -/

namespace FormEdit.Action

variable {α β : Type} {x : Action α} {f : α → Action β} {w : Workspace}

/-! ## Running actions -/

/-- What an action comes to on a workspace, and the workspace that it leaves. -/
def perform (x : Action α) (w : Workspace) : Except Failure α × Workspace := x.run.run w

theorem perform_bind (x : Action α) (f : α → Action β) (w : Workspace) :
    perform (x >>= f) w =
      match x.perform w with
      | (.ok a, w') => (f a).perform w'
      | (.error e, w') => (.error e, w') := by
  show (ExceptT.bindCont f (x.perform w).1).run (x.perform w).2 = _
  cases x.perform w with
  | mk r w' => cases r <;> rfl

theorem perform_tryCatch (x : Action α) (g : Failure → Action α) (w : Workspace) :
    perform (tryCatch x g) w =
      match x.perform w with
      | (.ok a, w') => (.ok a, w')
      | (.error e, w') => (g e).perform w' := by
  unfold perform
  rw [ExceptT.run_tryCatch, StateT.run_bind]
  cases x.run.run w with
  | mk r w' => cases r <;> rfl

theorem perform_ofExcept (r : Except Failure α) (w : Workspace) : (ofExcept r).perform w = (r, w) := by
  cases r <;> rfl

/-! ## What holds of an action -/

/-- Whether what an action comes to on a workspace, and the workspace that it leaves, are as `P`
    says. -/
def Meets (x : Action α) (w : Workspace) (P : Except Failure α → Workspace → Prop) : Prop :=
  P (x.perform w).1 (x.perform w).2

namespace Meets

variable {P : Except Failure β → Workspace → Prop} {Q : Except Failure α → Workspace → Prop}

theorem imp {P : Except Failure α → Workspace → Prop} (h : x.Meets w Q)
    (hQP : ∀ r w', Q r w' → P r w') : x.Meets w P := hQP _ _ h

/-- What is known of an action in two ways. -/
theorem and {P : Except Failure α → Workspace → Prop} (hP : x.Meets w P) (hQ : x.Meets w Q) :
    x.Meets w fun r w' => P r w' ∧ Q r w' := ⟨hP, hQ⟩

theorem bind (hx : x.Meets w Q) (hf : ∀ a w', Q (.ok a) w' → (f a).Meets w' P)
    (he : ∀ e w', Q (.error e) w' → P (.error e) w') : Meets (x >>= f) w P := by
  unfold Meets at hx ⊢
  rw [perform_bind]
  cases h : x.perform w with
  | mk r w' =>
    rw [h] at hx
    cases r with
    | ok a => exact hf a w' hx
    | error e => exact he e w' hx

/-- A step of which the value is known. -/
theorem bind_ok {a : α} {R : Workspace → Prop} (hx : x.Meets w fun r w' => r = .ok a ∧ R w')
    (hf : ∀ w', R w' → (f a).Meets w' P) : Meets (x >>= f) w P := by
  refine hx.bind ?_ fun e w' h => by cases h.1
  rintro _ w' ⟨⟨⟩, hr⟩
  exact hf w' hr

theorem tryCatch {P : Except Failure α → Workspace → Prop} {g : Failure → Action α}
    (hx : x.Meets w Q) (ha : ∀ a w', Q (.ok a) w' → P (.ok a) w')
    (hg : ∀ e w', Q (.error e) w' → (g e).Meets w' P) : Meets (MonadExcept.tryCatch x g) w P := by
  unfold Meets at hx ⊢
  rw [perform_tryCatch]
  cases h : x.perform w with
  | mk r w' =>
    rw [h] at hx
    cases r with
    | ok a => exact ha a w' hx
    | error e => exact hg e w' hx

/-- Two ways to a value that the same step goes on from. -/
theorem ite_bind {c : Prop} [Decidable c] {y : Action α} (hx : c → x.Meets w Q)
    (hy : ¬ c → y.Meets w Q) (hf : ∀ a w', Q (.ok a) w' → (f a).Meets w' P)
    (he : ∀ e w', Q (.error e) w' → P (.error e) w') :
    Meets (if c then x >>= f else y >>= f) w P := by
  by_cases hc : c
  · rw [if_pos hc]
    exact (hx hc).bind hf he
  · rw [if_neg hc]
    exact (hy hc).bind hf he

/-- What a step sees is the workspace. -/
theorem get_bind {f : Workspace → Action β} (h : (f w).Meets w P) :
    Meets (MonadState.get >>= f) w P := h

/-- A plain outcome changes nothing. -/
theorem ofExcept (r : Except Failure α) (w : Workspace) :
    (Action.ofExcept r).Meets w fun r' w' => r' = r ∧ w' = w := by
  unfold Meets
  rw [perform_ofExcept]
  exact ⟨rfl, rfl⟩

end Meets

/-! ## Actions that only look -/

/-- Whether an action leaves the workspace as it is, whatever it comes to. -/
def Looks (x : Action α) : Prop := ∀ w, x.Meets w fun _ w' => w' = w

namespace Looks

theorem pure (a : α) : Looks (Pure.pure a) := fun _ => rfl

theorem throw (e : Failure) : Looks (MonadExcept.throw e : Action α) := fun _ => rfl

/-- A failure skips what is behind it. -/
theorem throw_bind (e : Failure) (f : α → Action β) : Looks (MonadExcept.throw e >>= f) :=
  fun _ => rfl

theorem get : Looks MonadState.get := fun _ => rfl

theorem bind (hx : x.Looks) (hf : ∀ a, (f a).Looks) : Looks (x >>= f) := by
  intro w
  refine (hx w).bind (fun a w' h => ?_) fun e w' h => h
  rw [← h]
  exact hf a w'

theorem ofExcept (r : Except Failure α) : Looks (Action.ofExcept r) := by
  cases r with
  | ok a => exact .pure a
  | error e => exact .throw e

end Looks

/-! ## Actions that keep the files -/

/-- Whether an action leaves the files as they are, whatever it comes to. -/
def KeepsTree (x : Action α) : Prop := ∀ w, x.Meets w fun _ w' => w'.tree = w.tree

namespace KeepsTree

theorem pure (a : α) : KeepsTree (Pure.pure a) := fun _ => rfl

theorem throw (e : Failure) : KeepsTree (MonadExcept.throw e : Action α) := fun _ => rfl

/-- A failure skips what is behind it. -/
theorem throw_bind (e : Failure) (f : α → Action β) :
    KeepsTree (MonadExcept.throw e >>= f) := fun _ => rfl

theorem get : KeepsTree MonadState.get := fun _ => rfl

theorem bind (hx : x.KeepsTree) (hf : ∀ a, (f a).KeepsTree) : KeepsTree (x >>= f) := by
  intro w
  refine (hx w).bind (fun a w' h => ?_) fun e w' h => h
  exact (hf a w').imp fun r w'' h' => h'.trans h

theorem map (hx : x.KeepsTree) (g : α → β) : KeepsTree (g <$> x) :=
  hx.bind fun a => .pure (g a)

theorem ofExcept (r : Except Failure α) : KeepsTree (Action.ofExcept r) := by
  cases r with
  | ok a => exact .pure a
  | error e => exact .throw e

/-- Two ways to a value that the same step goes on from. -/
theorem ite_bind {c : Prop} [Decidable c] {y : Action α} (hx : x.KeepsTree) (hy : y.KeepsTree)
    (hf : ∀ a, (f a).KeepsTree) : KeepsTree (if c then x >>= f else y >>= f) := by
  by_cases hc : c
  · rw [if_pos hc]
    exact hx.bind hf
  · rw [if_neg hc]
    exact hy.bind hf

/-- A step that looks at the workspace may put another with the same files in its place. -/
theorem get_bind {f : Workspace → Action α} (h : ∀ w, (f w).Meets w fun _ w' => w'.tree = w.tree) :
    KeepsTree (MonadState.get >>= f) := fun w => h w

end KeepsTree

end FormEdit.Action
