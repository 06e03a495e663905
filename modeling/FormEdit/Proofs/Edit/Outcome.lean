import FormEdit.Proofs.Document.Grammar
import FormEdit.Proofs.Edit.Spanning
import FormEdit.Proofs.Edit.Substitution
import FormEdit.Proofs.Number.Numeral

set_option autoImplicit false

/-! # What a wrap comes to

A wrap at a line comes to one of five things (`WrapOutcome`): the source is not well formed, no form
is at the line, the template refuses the form, what comes of the template does not fit in the place
of the form, or it takes this place. The kinds of a failure and of what is behind it tell which
(`wrapSourceValue_settles`). What came out of the template is read twice, and is well formed the
second time because its text is what was read the first time. -/

namespace FormEdit

/-! ## Sources that are well formed, and others -/

variable {source form wrapped w w' : List Char} {line : Int} {t : Template} {f : LocatedForm}

theorem exists_parse (h : isBalanced source = true) : ∃ d, Document.parse source = .ok d := by
  rw [isBalanced] at h
  cases hd : Document.parse source with
  | ok d => exact ⟨d, rfl⟩
  | error e =>
    rw [hd] at h
    cases h

/-- What is not well formed has an issue. -/
theorem exists_issue (h : isBalanced source = false) :
    ∃ i, Document.parse source = .error (.issue i) := by
  rcases Document.parse_total source with ⟨d, hd⟩ | hi
  · rw [isBalanced_of_parse hd] at h
    cases h
  · exact hi

theorem locate_eq_none_of_not_isBalanced (h : isBalanced source = false) :
    locate source line = none := by
  obtain ⟨i, hi⟩ := exists_issue h
  exact locate_eq_none_iff.2 (.inr (.inl ⟨_, hi⟩))

theorem isBalanced_of_locate (h : locate source line = some f) : isBalanced source = true := by
  obtain ⟨d, -, -, -, hd, -⟩ := exists_placed_of_locate h
  exact isBalanced_of_parse hd

theorem countForms_eq_some_iff {k : Nat} :
    countForms source = some k ↔ ∃ d, Document.parse source = .ok d ∧ d.forms.length = k := by
  constructor
  · intro h
    cases hd : Document.parse source with
    | error e => simp [countForms, Document.formsOf?, hd, Except.toOption] at h
    | ok d =>
      rw [countForms_of_parse hd, Option.some.injEq] at h
      exact ⟨d, rfl, h⟩
  · rintro ⟨d, hd, rfl⟩
    exact countForms_of_parse hd

/-! ## A form in a template -/

namespace Template

/-- Whether a template with a form in its one place is a text that is well formed. -/
def Gives (t : Template) (form wrapped : List Char) : Prop :=
  ∃ head tail, t.HasPlace head tail ∧ wrapped = head ++ (form ++ tail) ∧ isBalanced wrapped = true

/-- Whether a template does not take a form in: its placeholder is there not once, or is empty, or
    the form between the two pieces is not well formed. -/
def Refuses (t : Template) (form : List Char) : Prop :=
  t.markerCount ≠ 1 ∨ t.placeholder = [] ∨ ∃ head tail,
    IsFirstCut t.placeholder t.text head tail ∧ isBalanced (head ++ (form ++ tail)) = false

theorem HasPlace.markerCount_eq {head tail : List Char} (h : t.HasPlace head tail) :
    t.markerCount = 1 := by
  simpa [isValid] using h.valid

theorem Gives.unique (h : t.Gives form w) (h' : t.Gives form w') : w = w' := by
  obtain ⟨head, tail, hplace, rfl, -⟩ := h
  obtain ⟨head', tail', hplace', rfl, -⟩ := h'
  obtain ⟨rfl, rfl⟩ := hplace.around.unique hplace'.around
  rfl

theorem Gives.not_refuses (h : t.Gives form w) : ¬ t.Refuses form := by
  obtain ⟨head, tail, hplace, rfl, hbal⟩ := h
  rintro (hcount | hempty | ⟨head', tail', hcut, hunbal⟩)
  · exact hcount hplace.markerCount_eq
  · exact hplace.marked hempty
  · obtain ⟨rfl, rfl⟩ := hplace.around.unique hcut
    rw [hbal] at hunbal
    cases hunbal

/-- What is said of the text that a template gives is said of this one. -/
theorem Gives.exists_and_iff (h : t.Gives form w) {p : List Char → Prop} :
    (∃ w', t.Gives form w' ∧ p w') ↔ p w := by
  constructor
  · rintro ⟨w', h', hp⟩
    rwa [h.unique h']
  · exact fun hp => ⟨w, h, hp⟩

theorem Refuses.not_gives (h : t.Refuses form) (w : List Char) : ¬ t.Gives form w :=
  fun hgives => hgives.not_refuses h

/-- A template takes a form in or refuses it. -/
theorem gives_or_refuses (t : Template) (form : List Char) :
    (∃ w, t.Gives form w) ∨ t.Refuses form := by
  by_cases hcount : t.markerCount = 1
  · by_cases hempty : t.placeholder = []
    · exact .inr (.inr (.inl hempty))
    · obtain ⟨⟨head, tail⟩, hcut⟩ := Option.ne_none_iff_exists'.1 (cutAt_ne_none hempty hcount)
      have hfirst := isFirstCut_of_cutAt hcut
      cases hbal : isBalanced (head ++ (form ++ tail)) with
      | true => exact .inl ⟨_, head, tail, ⟨hempty, by simp [isValid, hcount], hfirst⟩, rfl, hbal⟩
      | false => exact .inr (.inr (.inr ⟨head, tail, hfirst, hbal⟩))
  · exact .inr (.inl hcount)

end Template

theorem wrapForm_eq_ok_iff_gives : wrapForm form t = .ok w ↔ t.Gives form w := by
  rw [wrapForm_eq_ok_iff]
  constructor
  · rintro ⟨hv, hr, d, hd⟩
    obtain ⟨head, tail, hcut, hw⟩ := Template.render_eq_some hv hr
    have hmarked : t.placeholder ≠ [] := by
      intro hempty
      simp [Template.render, hempty] at hr
    exact ⟨head, tail, ⟨hmarked, hv, hcut⟩, hw, isBalanced_of_parse hd⟩
  · rintro ⟨head, tail, hplace, rfl, hbal⟩
    exact ⟨hplace.valid, hplace.render_eq form, exists_parse hbal⟩

/-! ## A text in the place of a form -/

namespace LocatedForm

/-- A source with a text in the place of a form that is located in it. -/
def exchange (f : LocatedForm) (source wrapped : List Char) : List Char :=
  source.take f.start.offset.toNat ++
    (wrapped ++ source.drop (f.start.offset.toNat + f.text.length))

/-- Whether a text fits in the place of a form: it is one form, and the source with it there is well
    formed and has as many forms as before. -/
structure Fits (f : LocatedForm) (source wrapped : List Char) : Prop where
  one : countForms wrapped = some 1
  balanced : isBalanced (f.exchange source wrapped) = true
  count : countForms (f.exchange source wrapped) = countForms source

end LocatedForm

theorem Document.exchange_placed {d : Document} {i : Nat} {n : Node}
    (hd : Document.parse source = .ok d) (hi : d.nodes[i]? = some n) :
    (d.placed i n).exchange source w =
      Node.textOf (d.nodes.take i) ++ (w ++ Node.textOf (d.nodes.drop (i + 1))) := by
  obtain ⟨k, hk, hbefore, -, hbehind⟩ := Document.exists_start_placed hd hi
  rw [LocatedForm.exchange, hk, Int.toNat_natCast, hbefore]
  exact congrArg (fun r => _ ++ (w ++ r)) hbehind

theorem replaceForm_eq_ok_iff_fits {d : Document} {i : Nat} {n : Node} {out : List Char}
    (hd : Document.parse source = .ok d) (hi : d.nodes[i]? = some n) :
    replaceForm d (d.placed i n) w = .ok out ↔
      (d.placed i n).Fits source w ∧ out = (d.placed i n).exchange source w := by
  rw [replaceForm_eq_ok_iff]
  constructor
  · rintro ⟨fragment, check, hw, hone, hout, hcheck, hcount⟩
    have hex : out = (d.placed i n).exchange source w :=
      hout.trans (Document.exchange_placed hd hi).symm
    rw [hex] at hcheck
    refine ⟨⟨countForms_eq_some_iff.2 ⟨fragment, hw, hone⟩, isBalanced_of_parse hcheck, ?_⟩, hex⟩
    rw [countForms_of_parse hcheck, countForms_of_parse hd, hcount]
  · rintro ⟨⟨hone, -, hcount⟩, rfl⟩
    obtain ⟨fragment, hw, hone⟩ := countForms_eq_some_iff.1 hone
    rw [countForms_of_parse hd] at hcount
    obtain ⟨check, hcheck, hcount⟩ := countForms_eq_some_iff.1 hcount
    exact ⟨fragment, check, hw, hone, Document.exchange_placed hd hi, hcheck, hcount⟩

/-! ## Failures that nothing checks for -/

/-- Whether an error is an issue of a text, and not raised where a text is read. -/
def BuildError.isIssue : BuildError → Bool
  | issue _ => true
  | unknownOpener _ => false

namespace EditError

/-- Whether a failure is raised where nothing checks for it, and is only caught in the end. -/
def isCaught : EditError → Bool
  | sourceNotText _ | unprintableLine => true
  | invalidSource e | invalidFragment e | invalidResult e => !e.isIssue
  | _ => false

/-- Whether the text that came out of a template, which is well formed, is found not to be. -/
def isReread : EditError → Bool
  | invalidFragment _ => true
  | _ => false

/-- Whether a failure is of a text that did not fit in the place of a form. -/
structure IsMisfit (e : EditError) : Prop where
  kind : e.kindName = "insert-failed"
  cause : e.cause? = none
  caught : e.isCaught = false
  reread : e.isReread = false

end EditError

/-- A text that is well formed is refused only for what comes of it in the source. -/
theorem isMisfit_of_replaceForm {d : Document} {e : EditError} (hw : isBalanced w = true)
    (h : replaceForm d f w = .error e) : e.IsMisfit := by
  obtain ⟨fragment, hfragment⟩ := exists_parse hw
  rw [replaceForm, hfragment] at h
  simp only at h
  split at h
  · cases h
    exact ⟨rfl, rfl, rfl, rfl⟩
  · rcases Document.parse_total (d.splice f.index [] fragment.nodes).text with ⟨check, hd⟩ | ⟨i, hi⟩
    · rw [hd] at h
      simp only at h
      split at h
      · cases h
        exact ⟨rfl, rfl, rfl, rfl⟩
      · cases h
    · rw [hi] at h
      cases h
      exact ⟨rfl, rfl, rfl, rfl⟩

/-! ## The five outcomes -/

/-- A line that can be printed is named when there is no form at it. -/
theorem noFormAt_of_printable (h : Numeral.printable line = true) :
    EditError.noFormAt line = .noForm (.int line) := by
  rw [EditError.noFormAt, if_pos h]

/-- What a wrap comes to, each with what was found. -/
inductive WrapOutcome (source : List Char) (line : Int) (t : Template) :
    Except EditError (List Char) → Prop
  | invalidSource {i : Issue} (unbalanced : isBalanced source = false) :
    WrapOutcome source line t (.error (.invalidSource (.issue i)))
  | noForm (balanced : isBalanced source = true) (nothing : locate source line = none) :
    WrapOutcome source line t (.error (.noForm (.int line)))
  | refused {f : LocatedForm} {e : TemplateError} (found : locate source line = some f)
    (refuses : t.Refuses f.text) :
    WrapOutcome source line t (.error (.templateRefused f.startLine e))
  | unfit {f : LocatedForm} {w : List Char} {e : EditError} (found : locate source line = some f)
    (gives : t.Gives f.text w) (unfit : ¬ f.Fits source w) (misfit : e.IsMisfit) :
    WrapOutcome source line t (.error e)
  | done {f : LocatedForm} {w : List Char} (found : locate source line = some f)
    (gives : t.Gives f.text w) (fits : f.Fits source w) :
    WrapOutcome source line t (.ok (f.exchange source w))

/-- What comes of the template takes the place of the form, or does not fit there. -/
theorem replaceForm_outcome {d : Document} {i : Nat} {n : Node}
    (hd : Document.parse source = .ok d) (hat : d.IsFormAt line i n) (hgives : t.Gives n.text w) :
    WrapOutcome source line t (replaceForm d (d.placed i n) w) := by
  have hfound := locate_of_isFormAt hd hat
  obtain ⟨-, -, -, -, hbal⟩ := id hgives
  cases hout : replaceForm d (d.placed i n) w with
  | ok out =>
    obtain ⟨hfits, rfl⟩ := (replaceForm_eq_ok_iff_fits hd hat.1.1).1 hout
    exact .done hfound hgives hfits
  | error e =>
    refine .unfit hfound hgives (fun hfits => ?_) (isMisfit_of_replaceForm hbal hout)
    rw [(replaceForm_eq_ok_iff_fits hd hat.1.1).2 ⟨hfits, rfl⟩] at hout
    cases hout

/-- A wrap at a line that can be printed comes to one of the five. -/
theorem wrapSource_outcome (hline : 1 ≤ line) (hprint : Numeral.printable line = true)
    (source : List Char) (t : Template) :
    WrapOutcome source line t (wrapSource source line t) := by
  rw [wrapSource, if_neg (by omega)]
  cases hbal : isBalanced source with
  | false =>
    obtain ⟨i, hi⟩ := exists_issue hbal
    rw [hi]
    exact .invalidSource hbal
  | true =>
    obtain ⟨d, hd⟩ := exists_parse hbal
    have hlocate := locate_of_parse hd hline
    simp only [hd]
    cases hf : d.locate line with
    | none =>
      simp only [noFormAt_of_printable hprint]
      exact .noForm hbal (hlocate.trans hf)
    | some f =>
      obtain ⟨i, n, hat, rfl⟩ := Document.locate_eq_some_iff.1 hf
      simp only
      cases hw : wrapForm (d.placed i n).text t with
      | ok w => exact replaceForm_outcome hd hat (wrapForm_eq_ok_iff_gives.1 hw)
      | error e =>
        refine .refused (hlocate.trans hf) ((t.gives_or_refuses _).resolve_left ?_)
        rintro ⟨w, hgives⟩
        rw [wrapForm_eq_ok_iff_gives.2 hgives] at hw
        cases hw

/-! ## Outcomes told apart -/

/-- The kind of a failure, none for a success. -/
def failureKind? : Except EditError (List Char) → Option String
  | .error e => some e.report.kind
  | .ok _ => none

/-- The kind of the failure behind a failure. -/
def causeKind? : Except EditError (List Char) → Option String
  | .error e => e.cause?.map fun cause => cause.report.kind
  | .ok _ => none

@[simp] theorem failureKind?_error (e : EditError) :
    failureKind? (.error e) = some e.kindName := rfl

@[simp] theorem failureKind?_ok (out : List Char) : failureKind? (.ok out) = none := rfl

@[simp] theorem causeKind?_error (e : EditError) :
    causeKind? (.error e) = e.cause?.map fun _ => "invalid-template" := rfl

@[simp] theorem causeKind?_ok (out : List Char) : causeKind? (.ok out) = none := rfl

namespace WrapOutcome

variable {outcome : Except EditError (List Char)}

/-- No failure is only caught, and none is found by reading again what came out of the template. -/
theorem foreseen (h : WrapOutcome source line t outcome) :
    ∀ e, outcome = .error e → e.isCaught = false ∧ e.isReread = false := by
  rintro e rfl
  cases h with
  | invalidSource _ => exact ⟨rfl, rfl⟩
  | noForm _ _ => exact ⟨rfl, rfl⟩
  | refused _ _ => exact ⟨rfl, rfl⟩
  | unfit _ _ _ misfit => exact ⟨misfit.caught, misfit.reread⟩

theorem parseFailed_iff (h : WrapOutcome source line t outcome) :
    failureKind? outcome = some "parse-failed" ↔ isBalanced source = false := by
  cases h with
  | invalidSource unbalanced => simp [EditError.kindName, unbalanced]
  | noForm balanced _ => simp [EditError.kindName, balanced]
  | refused found _ => simp [EditError.kindName, isBalanced_of_locate found]
  | unfit found _ _ misfit => simp [misfit.kind, isBalanced_of_locate found]
  | done found _ _ => simp [isBalanced_of_locate found]

theorem noForm_iff (h : WrapOutcome source line t outcome) :
    failureKind? outcome = some "no-form" ↔
      isBalanced source = true ∧ locate source line = none := by
  cases h with
  | invalidSource unbalanced => simp [EditError.kindName, unbalanced]
  | noForm balanced nothing => simp [EditError.kindName, balanced, nothing]
  | refused found _ => simp [EditError.kindName, found]
  | unfit found _ _ misfit => simp [misfit.kind, found]
  | done found _ _ => simp [found]

/-- A failure behind a wrap is that of the template. -/
theorem refused_iff (h : WrapOutcome source line t outcome) :
    failureKind? outcome = some "insert-failed" ∧ causeKind? outcome = some "invalid-template" ↔
      ∃ f, locate source line = some f ∧ t.Refuses f.text := by
  cases h with
  | invalidSource unbalanced =>
    simp [EditError.cause?, locate_eq_none_of_not_isBalanced unbalanced]
  | noForm _ nothing => simp [EditError.cause?, nothing]
  | refused found refuses => simp [EditError.kindName, EditError.cause?, found, refuses]
  | unfit found gives _ misfit => simp [misfit.cause, found, gives.not_refuses]
  | done found gives _ => simp [found, gives.not_refuses]

theorem unfit_iff (h : WrapOutcome source line t outcome) :
    failureKind? outcome = some "insert-failed" ∧ causeKind? outcome = none ↔
      ∃ f, locate source line = some f ∧ ∃ w, t.Gives f.text w ∧ ¬ f.Fits source w := by
  cases h with
  | invalidSource unbalanced =>
    simp [EditError.kindName, locate_eq_none_of_not_isBalanced unbalanced]
  | noForm _ nothing => simp [EditError.kindName, nothing]
  | refused found refuses => simp [EditError.cause?, found, refuses.not_gives]
  | unfit found gives unfit misfit =>
    simp [misfit.kind, misfit.cause, found, gives.exists_and_iff, unfit]
  | done found gives fits => simp [found, gives.exists_and_iff, fits]

theorem ok_iff (h : WrapOutcome source line t outcome) (out : List Char) :
    outcome = .ok out ↔ ∃ f, locate source line = some f ∧
      ∃ w, t.Gives f.text w ∧ f.Fits source w ∧ out = f.exchange source w := by
  cases h with
  | invalidSource unbalanced => simp [locate_eq_none_of_not_isBalanced unbalanced]
  | noForm _ nothing => simp [nothing]
  | refused found refuses => simp [found, refuses.not_gives]
  | unfit found gives unfit _ => simp [found, gives.exists_and_iff, unfit]
  | done found gives fits => simp [found, gives.exists_and_iff, fits, eq_comm]

end WrapOutcome

/-- What a wrap of a source comes to, whatever its text and its template are, at a line with no more
    digits than a number may have. No failure is one that is raised and only caught, and what the
    template gave is never found broken when it is read again. Before the first line there is no
    form. From there on each kind of failure stands for one condition: the source is not well
    formed; no form is at the line; the template refuses the form that is there; what the template
    gives does not fit in the place of the form. In every other case the outcome is the source with
    this in the place of the form. -/
theorem wrapSourceValue_settles {arg : TemplateArgument} (ht : arg.resolve = .ok t)
    (hline : line.natAbs < 10 ^ Numeral.maxDigits) (s : String) :
    let outcome := wrapSourceValue (.text s) (.int line) arg
    (∀ e, outcome = .error e → e.isCaught = false ∧ e.isReread = false) ∧
    (line < 1 → outcome = .error (.noForm (.int line))) ∧
    (1 ≤ line →
      (failureKind? outcome = some "parse-failed" ↔ isBalanced s.toList = false) ∧
      (failureKind? outcome = some "no-form" ↔
        isBalanced s.toList = true ∧ locate s.toList line = none) ∧
      (failureKind? outcome = some "insert-failed" ∧
          causeKind? outcome = some "invalid-template" ↔
        ∃ f, locate s.toList line = some f ∧ t.Refuses f.text) ∧
      (failureKind? outcome = some "insert-failed" ∧ causeKind? outcome = none ↔
        ∃ f, locate s.toList line = some f ∧
          ∃ w, t.Gives f.text w ∧ ¬ f.Fits s.toList w) ∧
      ∀ out, outcome = .ok out ↔ ∃ f, locate s.toList line = some f ∧
        ∃ w, t.Gives f.text w ∧ f.Fits s.toList w ∧ out = f.exchange s.toList w) := by
  intro outcome
  have hprint : Numeral.printable line = true := Numeral.printable_iff.2 hline
  have heq : outcome = wrapSource s.toList line t := by
    simp only [outcome, wrapSourceValue, ht]
  rw [heq]
  by_cases hlt : line < 1
  · have hnone : wrapSource s.toList line t = .error (.noForm (.int line)) := by
      rw [wrapSource, if_pos hlt, noFormAt_of_printable hprint]
    refine ⟨fun e he => ?_, fun _ => hnone, fun hle => by omega⟩
    rw [hnone] at he
    cases he
    exact ⟨rfl, rfl⟩
  · have h := wrapSource_outcome (by omega) hprint s.toList t
    exact ⟨h.foreseen, fun hlt' => absurd hlt' hlt, fun _ =>
      ⟨h.parseFailed_iff, h.noForm_iff, h.refused_iff, h.unfit_iff, h.ok_iff⟩⟩

/-- The empty placeholder stands once in the empty text, but is no place for a form. -/
theorem wrapSourceValue_settles_empty_placeholder :
    let outcome := wrapSourceValue (.text "a\n'b") (.int 2) (.made (.text "") [])
    (2 : Int).natAbs < 10 ^ Numeral.maxDigits ∧ Template.markerCount ⟨[], []⟩ = 1 ∧
      failureKind? outcome = some "insert-failed" ∧
      causeKind? outcome = some "invalid-template" := by
  intro outcome
  have hline : (2 : Int).natAbs < 10 ^ Numeral.maxDigits :=
    Numeral.printable_iff.1 (by decide +kernel)
  have hlocate : locate "a\n'b".toList 2 = some ⟨2, .marked ⟨.mark, ['\''], 2⟩
      [.leaf ⟨.atom, ['b'], 3⟩], ⟨2, 2, 1⟩, 2⟩ := by cbv
  have hresolve : (TemplateArgument.made (.text "") []).resolve = .ok ⟨[], []⟩ := rfl
  obtain ⟨-, -, hkinds⟩ := wrapSourceValue_settles hresolve hline "a\n'b"
  obtain ⟨-, -, hrefused, -⟩ := hkinds (by decide)
  exact ⟨hline, rfl, hrefused.2 ⟨_, hlocate, .inr (.inl rfl)⟩⟩

end FormEdit
