import FormEdit.Command.Dispatch
import FormEdit.Proofs.Number.Whole
import FormEdit.Proofs.Workspace.Keep

set_option autoImplicit false

/-! # Commands at a line

Locating and wrapping take a line, which is a parameter of any kind. A line that stands for a number
is taken for it, and one that stands for none is answered with an error that says so. Only what
looks like digits and is no numeral makes the command itself fail (`Command.handle_line`). -/

namespace FormEdit.Command

open FormEdit.Action

variable {c : Command} {v : Value} {ps : Parameters} {w : Workspace} {n : Int} {source : String}

/-- With what a command answers at a line of a source that is given as code. -/
inductive AnswersAt (source : String) (ps : Parameters) (w : Workspace) (n : Int) :
    Command → Except Failure Response → Prop
  | located {form : LocatedForm} (h : FormEdit.locate source.toList n = some form) :
    AnswersAt source ps w n locate
      (.ok (.ok (.located inlineName n form.startLine form.endLine form.text)))
  | noForm (h : FormEdit.locate source.toList n = none) (hn : Numeral.printable n = true) :
    AnswersAt source ps w n locate
      (.ok (.error ⟨"no-form", s!"No top-level form found at line {n}", [("target_line", .int n)]⟩))
  | unprintable (h : FormEdit.locate source.toList n = none) (hn : Numeral.printable n = false) :
    AnswersAt source ps w n locate
      (.ok (.error (failed locate (.badValue Numeral.unprintableMessage))))
  | wrapped {settings : Settings} {text : List Char}
    (hs : (Settings.current.perform w).1 = .ok settings)
    (h : wrapSourceValue (.text source) (.int n)
      (.made (ps.get "template") settings.placeholder.toList) = .ok text) :
    AnswersAt source ps w n wrap (.ok (.ok (.wrapped inlineName n text false)))
  | refused {settings : Settings} {e : EditError}
    (hs : (Settings.current.perform w).1 = .ok settings)
    (h : wrapSourceValue (.text source) (.int n)
      (.made (ps.get "template") settings.placeholder.toList) = .error e) :
    AnswersAt source ps w n wrap (.ok (.error (.ofEdit e n)))
  | unset {failure : Failure} (hs : (Settings.current.perform w).1 = .error failure) :
    AnswersAt source ps w n wrap (.ok (.error (failed wrap failure)))

/-- The answer of a command that has come to an end or failed. -/
def reply (c : Command) : Except Failure Response → Response
  | .ok response => response
  | .error failure => .error (failed c failure)

/-- A command that is asked for by its name answers, also when it fails. -/
theorem handle_name (c : Command) (ps : Parameters) (w : Workspace) :
    ((handle (.text c.name) ps).perform w).1 = .ok (reply c ((c.run ps).perform w).1) := by
  have hrun : handle (.text c.name) ps =
      tryCatch (c.run ps) fun failure => return .error (failed c failure) := by
    unfold handle
    simp only [ofName?_name]
    rfl
  rw [hrun, perform_tryCatch]
  cases (c.run ps).perform w with
  | mk r w' => cases r <;> rfl

/-! ## Reading the line -/

theorem findSource_code (hcode : ps.get "code" = .text source) (w : Workspace) :
    (findSource ps).Meets w fun r w' => r = .ok (.ok ⟨.text source, inlineName⟩) ∧ w' = w := by
  unfold findSource
  rw [hcode]
  exact ⟨rfl, rfl⟩

/-- Both commands read their line first, and need one to go on. -/
theorem exists_run_eq (hc : c = locate ∨ c = wrap) (ps : Parameters) :
    ∃ goOn : Int → Action Response, c.run ps =
      Action.ofExcept (wholeParameter (ps.get "line")) >>= fun line =>
        match line with
        | none => return .error noLine
        | some n => goOn n := by
  rcases hc with rfl | rfl
  · exact ⟨_, rfl⟩
  · exact ⟨_, rfl⟩

theorem run_without_line (hc : c = locate ∨ c = wrap)
    (hline : ∀ n, wholeParameter (ps.get "line") ≠ .ok (some n)) (w : Workspace) :
    ((c.run ps).perform w).1 = (wholeParameter (ps.get "line")).map fun _ => .error noLine := by
  obtain ⟨goOn, hrun⟩ := exists_run_eq hc ps
  rw [hrun]
  cases hread : wholeParameter (ps.get "line") with
  | error failure => rfl
  | ok line =>
    cases line with
    | none => rfl
    | some n => exact absurd hread (hline n)

theorem runLocate_at (hcode : ps.get "code" = .text source)
    (hline : wholeParameter (ps.get "line") = .ok (some n)) (w : Workspace) :
    (runLocate ps).Meets w fun r _ => AnswersAt source ps w n locate (.ok (reply locate r)) := by
  unfold runLocate
  rw [hline]
  refine (Meets.ofExcept _ w).bind_ok ?_
  rintro w rfl
  refine (findSource_code hcode w).bind_ok ?_
  rintro w rfl
  have hlocate : locateValue (.text source) (.int n) = FormEdit.locate source.toList n := rfl
  dsimp only
  rw [hlocate]
  cases hform : FormEdit.locate source.toList n with
  | some form => exact .located hform
  | none =>
    cases hn : Numeral.printable n with
    | true => exact .noForm hform hn
    | false => exact .unprintable hform hn

theorem runWrap_at (hcode : ps.get "code" = .text source)
    (htemplate : (ps.get "template").truthy = true)
    (hline : wholeParameter (ps.get "line") = .ok (some n)) (w : Workspace) :
    (runWrap ps).Meets w fun r _ => AnswersAt source ps w n wrap (.ok (reply wrap r)) := by
  -- Given as code, the source has no file to be written.
  have hwrite : isToWrite ps = false := by
    rw [isToWrite, hcode]
    rfl
  unfold runWrap
  rw [hline, hwrite]
  refine (Meets.ofExcept _ w).bind_ok ?_
  rintro w rfl
  dsimp only
  rw [htemplate, if_neg (by decide)]
  refine (findSource_code hcode w).bind_ok ?_
  rintro w rfl
  refine Meets.bind (Q := fun r _ => r = (Settings.current.perform w).1) rfl ?_
    fun e w' h => .unset h.symm
  rintro settings w' hs
  dsimp only
  cases h : wrapSourceValue (.text source) (.int n)
      (.made (ps.get "template") settings.placeholder.toList) with
  | ok text => exact .wrapped hs.symm h
  | error e => exact .refused hs.symm h

/-- A line that stands for a number is the one that locating and wrapping answer at, and one that
    stands for none is answered with the error that a line is needed. Neither is so for a text that
    is misread: such a line makes the command fail. -/
theorem handle_line (hc : c = locate ∨ c = wrap) (hcode : ps.get "code" = .text source)
    (htemplate : (ps.get "template").truthy = true) (hline : ps.get "line" = v) (w : Workspace) :
    let answer := ((handle (.text c.name) ps).perform w).1
    (∀ n, StandsFor v n → ¬ Misread v → AnswersAt source ps w n c answer) ∧
    ((∀ n, ¬ StandsFor v n) → ¬ Misread v → answer = .ok (.error noLine)) ∧
    (Misread v → ∃ failure, answer = .ok (.error (failed c failure))) := by
  intro answer
  have hanswer : answer = .ok (reply c ((c.run ps).perform w).1) := handle_name c ps w
  subst hline
  refine ⟨fun n hn hmisread => ?_, fun hnone hmisread => ?_, fun hmisread => ?_⟩
  · have hread := wholeParameter_eq_some_iff.2 ⟨hn, hmisread⟩
    rw [hanswer]
    rcases hc with rfl | rfl
    · exact runLocate_at hcode hread w
    · exact runWrap_at hcode htemplate hread w
  · have hread := wholeParameter_eq_none_iff.2 ⟨hnone, hmisread⟩
    rw [hanswer, run_without_line hc (by simp [hread]) w, hread]
    rfl
  · obtain ⟨failure, hread⟩ := wholeParameter_eq_error_iff.2 hmisread
    refine ⟨failure, ?_⟩
    rw [hanswer, run_without_line hc (by simp [hread]) w, hread]
    rfl

/-- A line in digits between blanks, and a truth value. -/
theorem handle_line_between_blanks :
    let ps : Value → Parameters := fun line =>
      [("line", line), ("code", .text "(a)"), ("template", .text "%s")]
    let w : Workspace := ⟨⟨[]⟩, "/w", [], none, none, .silent, .none, .closed, "1", .usual⟩
    AnswersAt "(a)" (ps (.text " 1\n")) w 1 locate
      ((handle (.text "locate") (ps (.text " 1\n"))).perform w).1 ∧
    ((handle (.text "wrap") (ps (.bool true))).perform w).1 = .ok (.error noLine) := by
  intro ps w
  have hstrip : strip " 1\n".toList = ['1'] := by decide
  have hone : StandsFor (.text " 1\n") 1 :=
    standsFor_text_iff.2 ⟨[1], by rw [hstrip]; decide, by decide, by decide⟩
  have hread : ¬ Misread (.text " 1\n") := by
    rintro ⟨-, hbad⟩
    rw [hstrip] at hbad
    rcases hbad with ⟨c, hc, hnone⟩ | hlong
    · rw [List.mem_singleton.1 hc] at hnone
      exact absurd hnone (by decide)
    · exact absurd hlong (by decide)
  obtain ⟨hlocate, -⟩ := handle_line (.inl rfl)
    (rfl : (ps (.text " 1\n")).get "code" = .text "(a)") rfl rfl w
  obtain ⟨-, hwrap, -⟩ := handle_line (c := wrap) (.inr rfl)
    (rfl : (ps (.bool true)).get "code" = .text "(a)") rfl rfl w
  exact ⟨hlocate 1 hone hread, hwrap nofun id⟩

/-- A raised two looks like a digit and is none, and the command fails. -/
theorem handle_line_raised_digit :
    let ps : Parameters := [("line", .text "²"), ("code", .text "(a)")]
    let w : Workspace := ⟨⟨[]⟩, "/w", [], none, none, .silent, .none, .closed, "1", .usual⟩
    (∀ n, ¬ StandsFor (.text "²") n) ∧
    ((handle (.text "locate") ps).perform w).1 = .ok (.error ⟨"command_failed",
      "Failed to handle command", [("command", .text "locate"),
        ("details", .text "invalid literal for int() with base 10: '²'")]⟩) := by
  intro ps w
  have hstrip : strip "²".toList = ['²'] := by decide
  refine ⟨fun n hn => ?_, ?_⟩
  · obtain ⟨ds, hds, -⟩ := standsFor_text_iff.1 hn
    rw [hstrip] at hds
    obtain ⟨d, hd⟩ := exists_digit_of_mem hds List.mem_cons_self
    rw [show decimalDigit? '²' = none by decide] at hd
    cases hd
  · have hlooks : LooksLikeDigits (strip "²".toList) := by
      rw [hstrip]
      refine ⟨by decide, fun c hc => ?_⟩
      rw [List.mem_singleton.1 hc]
      decide
    have hmessage : Numeral.Fault.message ['²'] .malformed =
        "invalid literal for int() with base 10: '²'" := by decide +kernel
    have hread : wholeParameter (ps.get "line") =
        .error (.badValue "invalid literal for int() with base 10: '²'") := by
      show wholeParameter (.text "²") = _
      rw [wholeParameter_of_looksLikeDigits hlooks, hstrip, ← hmessage]
      rfl
    have hanswer := handle_name locate ps w
    rw [run_without_line (.inl rfl) (by simp [hread]) w, hread] at hanswer
    exact hanswer

end FormEdit.Command
