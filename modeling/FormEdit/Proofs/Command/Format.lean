import FormEdit.Proofs.Command.Effects
import FormEdit.Proofs.Text.LineEnds
import FormEdit.Proofs.Text.Utf8

set_option autoImplicit false

/-! # Formatting a file

A formatter is run on a file if the file holds balanced text, the settings can be read and a known
formatter is there. Of what it gives, the answer has the text with the line ends of the file, and
this is what the file holds then. Only a file whose name is the one of code given as such is taken
for code, and stays as it is. -/

namespace FormEdit

open FormEdit.Action

/-! ## Running a formatter -/

namespace Formatting

/-- The run of a formatter on code. -/
def runOf (f : Formatting) (x : Formatter) (s : String) : ProgramRun :=
  ⟨(x.command :: x.arguments).map .text, some s, f.timeout⟩

/-- Formatting needs the settings and nothing else. -/
theorem create_meets (w : Workspace) :
    (create none none).Meets w fun r w' =>
      (w'.tree = w.tree ∧ w'.programs = w.programs) ∧
        match (Settings.current.perform w).1 with
        | .ok _ => ∃ f, r = .ok f ∧ f.formatters = knownFormatters
        | .error e => r = .error e := by
  unfold create
  refine Meets.bind
    (Q := fun r w' => r = (Settings.current.perform w).1 ∧ ∃ s, w' = { w with settings := s })
    ⟨rfl, Settings.current_meets w⟩ ?_ ?_
  · rintro settings w' ⟨hr, s, rfl⟩
    rw [← hr]
    exact ⟨⟨rfl, rfl⟩, _, rfl, rfl⟩
  · rintro e w' ⟨hr, s, rfl⟩
    rw [← hr]
    exact ⟨⟨rfl, rfl⟩, rfl⟩

/-- A formatter is run once on balanced text if one is there. Otherwise nothing happens. -/
theorem format_meets (f : Formatting) (s : String) (w : Workspace) :
    (f.format (.text s)).Meets w fun r w' => w'.tree = w.tree ∧
      (w'.programs = w.programs ∧ (∃ e, r = .ok (.error e)) ∧
          ¬ (isBalanced s.toList = true ∧
            ∃ x ∈ f.formatters, w.programs.found.contains x.command = true) ∨
        ∃ x ∈ f.formatters, w.programs.found.contains x.command = true ∧
          isBalanced s.toList = true ∧
          ∃ outcome, w.programs.run (f.runOf x s) = (outcome, w'.programs) ∧
            r = .ok (f.result x outcome)) := by
  unfold format
  dsimp only
  by_cases hbalanced : isBalanced s.toList = true
  · rw [if_neg (by simp [hbalanced])]
    refine Meets.get_bind ?_
    cases hfind : f.formatters.find? fun x => w.programs.found.contains x.command with
    | none =>
      refine ⟨rfl, .inl ⟨rfl, ⟨_, rfl⟩, ?_⟩⟩
      rintro ⟨-, x, hx, hfound⟩
      exact List.find?_eq_none.1 hfind x hx hfound
    | some x =>
      have hfound := List.find?_some hfind
      exact ⟨rfl, .inr ⟨x, List.mem_of_find?_eq_some hfind, hfound, hbalanced, _, rfl, rfl⟩⟩
  · rw [if_pos (by simpa using hbalanced)]
    exact ⟨rfl, .inl ⟨rfl, ⟨_, rfl⟩, fun h => hbalanced h.1⟩⟩

theorem result_eq_ok_iff {f : Formatting} {x : Formatter} {outcome : RunEnd} {output : String} :
    f.result x outcome = .ok output ↔ ∃ errors, outcome = .finished 0 output errors := by
  cases outcome with
  | timedOut => simp [result]
  | refused reason => simp [result]
  | finished code text errors =>
    by_cases hcode : code = 0
    · simp [result, hcode]
    · simp [result, hcode]

end Formatting

/-! ## The text of a file -/

/-- The text that stands for no path stands for the working folder, which is no file. -/
theorem FileTree.content?_empty (t : FileTree) : t.content? (.ofText "") = none := rfl

/-- A file holds one text at most. -/
theorem FileTree.text_unique {t : FileTree} {p : Path} {given text : List Char}
    (hgiven : t.content? p = some (Utf8.encode given))
    (htext : t.content? p = some (Utf8.encode text)) : given = text :=
  Utf8.encode_injective (Option.some.inj (hgiven.symm.trans htext))

theorem Files.textOf_eq_error {path : String} {content : Option (List UInt8)} {e : FileError}
    (h : textOf path content = .error e) (given : List Char) :
    content ≠ some (Utf8.encode given) := by
  rintro rfl
  unfold textOf at h
  dsimp only at h
  rw [Utf8.decode_encode] at h
  cases h

variable {ps : Parameters} {path : String}

/-- Without code the source is the text of the file, if the file holds text. -/
theorem findSource_file_meets (hcode : (ps.get "code").isNull = true)
    (hpath : ps.get "file_path" = .text path) (w : Workspace) :
    (findSource ps).Meets w fun r w' => w' = w ∧
      ((∃ e, r = .ok (.error e)) ∧
          (∀ given, w.tree.content? (.ofText path) ≠ some (Utf8.encode given)) ∨
        ∃ given, w.tree.content? (.ofText path) = some (Utf8.encode given) ∧
          r = .ok (.ok ⟨.text (String.ofList given), path⟩)) := by
  unfold findSource
  dsimp only
  rw [hcode, hpath, if_neg (by decide)]
  by_cases hempty : path = ""
  · subst hempty
    refine ⟨rfl, .inl ⟨⟨_, rfl⟩, fun given => ?_⟩⟩
    rw [FileTree.content?_empty]
    exact (Option.some_ne_none _).symm
  · rw [if_neg (by simpa [Value.truthy] using hempty)]
    refine (Meets.ofExcept _ w).bind_ok ?_
    rintro w' rfl
    refine (Files.readText_meets path w').bind ?_ fun e w₁ h => nomatch h.2
    rintro r w₁ ⟨rfl, hr⟩
    have hr := Except.ok.inj hr
    cases r with
    | error e => exact ⟨rfl, .inl ⟨⟨_, rfl⟩, Files.textOf_eq_error hr.symm⟩⟩
    | ok given =>
      obtain ⟨old, hold, hgiven⟩ := Files.textOf_eq_ok hr.symm
      rw [← Utf8.encode_of_decode hgiven] at hold
      exact ⟨rfl, .inr ⟨given, hold, rfl⟩⟩

theorem Files.write_programs (u : Utf8.StandIns) (path content : Value) (w : Workspace) :
    (write u path content).Meets w fun _ w' => w'.programs = w.programs := by
  unfold write
  refine (Meets.ofExcept _ _).bind ?_ fun e w' h => congrArg Workspace.programs h.2
  rintro spelling w' ⟨-, rfl⟩
  refine Meets.get_bind ?_
  dsimp only
  split <;> rfl

namespace Command

/-! ## Answering -/

/-- What a formatter needs to be run on a file. -/
structure CanFormat (w : Workspace) (path : String) : Prop where
  text : ∃ given, w.tree.content? (.ofText path) = some (Utf8.encode given) ∧
    isBalanced given = true
  settings : ∃ settings, (Settings.current.perform w).1 = .ok settings
  formatter : ∃ x ∈ Formatting.knownFormatters, w.programs.found.contains x.command = true

theorem CanFormat.isBalanced {w : Workspace} {given : List Char} (h : CanFormat w path)
    (hgiven : w.tree.content? (.ofText path) = some (Utf8.encode given)) :
    isBalanced given = true := by
  obtain ⟨given', hgiven', hbalanced⟩ := h.text
  rw [FileTree.text_unique hgiven hgiven']
  exact hbalanced

/-- What is answered when a formatter was run on the text of a file, and which files there are
    then: what a failure says, and the files as they were, or the output with the line ends that
    were given, which the file holds unless it is taken for code. -/
inductive FormatAnswer (t : FileTree) (path : String) (given : List Char) :
    Except FormatError String → Response → FileTree → Prop
  | failed (e : FormatError) :
      FormatAnswer t path given (.error e) (.error ⟨FormatError.kindName, e.message, []⟩) t
  | formatted {output : String} {text : List Char} {t' : FileTree}
      (htext : text = keepLineEnds given output.toList)
      (hwritten : path ≠ inlineName → t'.content? (.ofText path) = some (Utf8.encode text))
      (hkept : path = inlineName ∨ text = given → t' = t) :
      FormatAnswer t path given (.ok output)
        (.ok (.formatted (String.ofList text) (text != given) path)) t'

namespace FormatAnswer

variable {t t' : FileTree} {given : List Char} {formatted : Except FormatError String}

theorem keeps_of_error {response : Response}
    (h : FormatAnswer t path given formatted response t')
    (hno : ∀ result, response ≠ .ok result) : t' = t := by
  cases h with
  | failed e => rfl
  | formatted => exact absurd rfl (hno _)

/-- The file holds the text that is answered, unless it is taken for code and the text is new. -/
theorem of_ok {result : CommandResult} (h : FormatAnswer t path given formatted (.ok result) t')
    (hgiven : t.content? (.ofText path) = some (Utf8.encode given)) :
    ∃ text changed, result = .formatted (String.ofList text) changed path ∧
      (changed = true ↔ text ≠ given) ∧
      (t'.content? (.ofText path) = some (Utf8.encode text) ↔
        ¬ (path = inlineName ∧ changed = true)) ∧
      (path = inlineName ∨ changed = false → t' = t) := by
  cases h with
  | @formatted output text _ htext hwritten hkept =>
    refine ⟨text, text != given, rfl, bne_iff_ne, ?_, fun h => hkept ?_⟩
    · by_cases hname : path = inlineName
      · rw [hkept (.inl hname)]
        constructor
        · intro htext h
          exact bne_iff_ne.1 h.2 (FileTree.text_unique htext hgiven)
        · intro h
          have hsame : text = given := by simpa [hname] using h
          rw [hsame]
          exact hgiven
      · exact iff_of_true (hwritten hname) fun h => hname h.1
    · exact h.imp_right fun hsame => by simpa using hsame

/-- There is an answer that is no error exactly if the formatter has given text. -/
theorem eq_ok_iff {response : Response} (h : FormatAnswer t path given formatted response t')
    (result : CommandResult) :
    response = .ok result ↔ ∃ output, formatted = .ok output ∧
      result = .formatted (String.ofList (keepLineEnds given output.toList))
        (keepLineEnds given output.toList != given) path := by
  cases h with
  | failed e => simp
  | formatted htext =>
    subst htext
    constructor
    · rintro ⟨⟩
      exact ⟨_, rfl, rfl⟩
    · rintro ⟨_, ⟨⟩, rfl⟩
      rfl

end FormatAnswer

/-- What comes of formatting a file. -/
inductive FormatsFile (w : Workspace) (path : String) :
    Except Failure Response → Workspace → Prop
  /-- Nothing is run, and nothing is answered but an error. -/
  | hindered {r : Except Failure Response} {w' : Workspace} (hcan : ¬ CanFormat w path)
      (hr : ∀ result, r ≠ .ok (.ok result)) (htree : w'.tree = w.tree)
      (hprograms : w'.programs = w.programs) : FormatsFile w path r w'
  /-- One formatter is run, and its outcome is answered. -/
  | ran {f : Formatting} {x : Formatter} {given : List Char} {outcome : RunEnd}
      {response : Response} {w' : Workspace} (hcan : CanFormat w path)
      (hgiven : w.tree.content? (.ofText path) = some (Utf8.encode given))
      (hrun : w.programs.run (f.runOf x (String.ofList given)) = (outcome, w'.programs))
      (hanswer : FormatAnswer w.tree path given (f.result x outcome) response w'.tree) :
      FormatsFile w path (.ok response) w'

/-- A file that was read is written back when it has other text now. -/
theorem writeFormatted_meets {w : Workspace} {given : List Char}
    (hgiven : w.tree.content? (.ofText path) = some (Utf8.encode given)) (text : List Char) :
    Meets (if path != inlineName && text != given then do
        match ← Files.write [] (.text path) (.text (String.ofList text)) with
        | .error e => return .error (.ofFile e)
        | .ok _ => return .ok (.formatted (String.ofList text) (text != given) path)
      else return .ok (.formatted (String.ofList text) (text != given) path) : Action Response) w
      fun r w' => r = .ok (.ok (.formatted (String.ofList text) (text != given) path)) ∧
        w'.programs = w.programs ∧
        (path ≠ inlineName → w'.tree.content? (.ofText path) = some (Utf8.encode text)) ∧
        (path = inlineName ∨ text = given → w'.tree = w.tree) := by
  by_cases hwrite : (path != inlineName && text != given) = true
  · rw [if_pos hwrite]
    rw [Bool.and_eq_true, bne_iff_ne, bne_iff_ne] at hwrite
    refine ((Files.write_read_meets hgiven _).and (Files.write_programs _ _ _ w)).bind ?_ ?_
    · rintro outcome w' ⟨⟨⟨said, ⟨⟩⟩, hrewrites⟩, hprograms⟩
      refine ⟨rfl, hprograms, fun _ => ?_, fun h => absurd h (not_or.2 hwrite)⟩
      have hafter := hrewrites.after
      rw [String.toList_ofList] at hafter
      exact hafter
    · rintro e w' ⟨⟨⟨said, ⟨⟩⟩, -⟩, -⟩
  · rw [if_neg hwrite]
    refine ⟨rfl, rfl, fun hname => ?_, fun _ => rfl⟩
    have hsame : text = given := by simpa [hname] using hwrite
    rw [hsame]
    exact hgiven

/-- What comes of formatting the text of a file once it is read, and the settings with it. Reading
    them keeps the files and the programs, so this is said of the workspace from before. -/
theorem answerFormat_meets {w w' : Workspace} {given : List Char} {f : Formatting}
    (hgiven : w.tree.content? (.ofText path) = some (Utf8.encode given))
    (hsettings : ∃ settings, (Settings.current.perform w).1 = .ok settings)
    (hknown : f.formatters = Formatting.knownFormatters)
    (htree : w'.tree = w.tree) (hprograms : w'.programs = w.programs) :
    Meets (do
        match ← f.format (.text (String.ofList given)) with
        | .error e => return .error ⟨FormatError.kindName, e.message, []⟩
        | .ok output =>
          let text := keepLineEnds given output.toList
          if path != inlineName && text != given then
            match ← Files.write [] (.text path) (.text (String.ofList text)) with
            | .error e => return .error (.ofFile e)
            | .ok _ => return .ok (.formatted (String.ofList text) (text != given) path)
          else return .ok (.formatted (String.ofList text) (text != given) path) : Action Response)
      w' (FormatsFile w path) := by
  refine (f.format_meets _ _).bind ?_ ?_
  · simp only [String.toList_ofList, hprograms, hknown]
    rintro formatted w₁ ⟨htree₁, h⟩
    have hkeeps : w₁.tree = w.tree := htree₁.trans htree
    rcases h with ⟨hprograms₁, ⟨e, ⟨⟩⟩, hno⟩ | ⟨x, hx, hfound, hbalanced, outcome, hrun, hr⟩
    · exact .hindered (fun hcan => hno ⟨hcan.isBalanced hgiven, hcan.formatter⟩) nofun hkeeps
        hprograms₁
    · have hcan : CanFormat w path :=
        ⟨⟨given, hgiven, hbalanced⟩, hsettings, ⟨x, hx, hfound⟩⟩
      have hresult := Except.ok.inj hr
      cases formatted with
      | error e =>
        have hanswer : FormatAnswer w.tree path given (f.result x outcome)
            (.error ⟨FormatError.kindName, e.message, []⟩) w₁.tree := by
          rw [← hresult, hkeeps]
          exact .failed e
        exact .ran hcan hgiven hrun hanswer
      | ok output =>
        have hgiven₁ := hgiven
        rw [← hkeeps] at hgiven₁
        refine (writeFormatted_meets hgiven₁ (keepLineEnds given output.toList)).imp ?_
        rintro r w₂ ⟨rfl, hprograms₂, hwritten, hkept⟩
        rw [← hprograms₂] at hrun
        refine .ran hcan hgiven hrun ?_
        rw [← hresult]
        exact .formatted rfl hwritten fun h => (hkept h).trans hkeeps
  · rintro e w₁ ⟨-, ⟨-, ⟨e', ⟨⟩⟩, -⟩ | ⟨x, -, -, -, outcome, -, ⟨⟩⟩⟩

/-- Formatting a file comes to what `FormatsFile` says. -/
theorem runFormat_file_meets (hcode : (ps.get "code").isNull = true)
    (hpath : ps.get "file_path" = .text path) (w : Workspace) :
    (runFormat ps).Meets w (FormatsFile w path) := by
  unfold runFormat
  refine (findSource_file_meets hcode hpath w).bind ?_ ?_
  swap
  · rintro e w₁ ⟨-, ⟨⟨e', ⟨⟩⟩, -⟩ | ⟨given, -, ⟨⟩⟩⟩
  rintro found w₁ ⟨rfl, ⟨⟨e, ⟨⟩⟩, hno⟩ | ⟨given, hgiven, ⟨⟩⟩⟩
  · exact .hindered (fun hcan => hcan.text.elim fun given h => hno given h.1) nofun rfl rfl
  have hcreate := Formatting.create_meets w₁
  cases hsettings : (Settings.current.perform w₁).1 with
  | error e =>
    simp only [hsettings] at hcreate
    refine hcreate.bind ?_ ?_
    · rintro f w₂ ⟨-, ⟨⟩⟩
    · rintro e' w₂ ⟨⟨htree, hprograms⟩, -⟩
      refine .hindered (fun hcan => ?_) nofun htree hprograms
      obtain ⟨settings, hcurrent⟩ := hcan.settings
      rw [hsettings] at hcurrent
      cases hcurrent
  | ok settings =>
    simp only [hsettings] at hcreate
    refine hcreate.bind ?_ ?_
    · rintro f w₂ ⟨⟨htree, hprograms⟩, f', ⟨⟩, hknown⟩
      simp only [Value.display, String.toList_ofList]
      exact answerFormat_meets hgiven ⟨settings, hsettings⟩ hknown htree hprograms
    · rintro e w₂ ⟨-, f, ⟨⟩, -⟩

/-! ## The answer and the file -/

/-- What a formatter gives is answered, with the line ends of the file. -/
theorem runFormat_of_canFormat {w : Workspace} {given : List Char} {output errors : String}
    (hcode : (ps.get "code").isNull = true) (hpath : ps.get "file_path" = .text path)
    (hcan : CanFormat w path)
    (hgiven : w.tree.content? (.ofText path) = some (Utf8.encode given))
    (houtput : ∀ run, (w.programs.run run).1 = .finished 0 output errors) :
    ∃ text w', text = keepLineEnds given output.toList ∧ (runFormat ps).perform w =
        (.ok (.ok (.formatted (String.ofList text) (text != given) path)), w') ∧
      (path ≠ inlineName → w'.tree.content? (.ofText path) = some (Utf8.encode text)) ∧
      (path = inlineName ∨ text = given → w'.tree = w.tree) := by
  have h := runFormat_file_meets hcode hpath w
  unfold Meets at h
  generalize (runFormat ps).perform w = outcome at h ⊢
  obtain ⟨r, w'⟩ := outcome
  cases h with
  | hindered hno => exact absurd hcan hno
  | @ran f x given' outcome response _ _ hgiven' hrun hanswer =>
    obtain rfl := FileTree.text_unique hgiven hgiven'
    have hfinished := houtput (f.runOf x (String.ofList given))
    rw [hrun] at hfinished
    dsimp only at hfinished hanswer
    rw [hfinished] at hanswer
    have hresult : f.result x (.finished 0 output errors) = .ok output := rfl
    rw [hresult] at hanswer
    generalize htree : w'.tree = t' at hanswer
    cases hanswer with
    | formatted htext hwritten hkept =>
      rw [← htree] at hwritten hkept
      exact ⟨_, w', htext, rfl, hwritten, hkept⟩

/-- A workspace with a file in it, and a formatter that is about to end in some way. -/
def holding (file text : String) (outcome : RunEnd) : Workspace :=
  let settings : Settings := ⟨2000, 1000, 100, "localhost", 5000, 30, "", "%s"⟩
  ⟨⟨[([file], .file (Utf8.encode text.toList))]⟩, "/w", [], some settings, none, .silent,
    ⟨["cljfmt"], [outcome], []⟩, .closed, "1", .usual⟩

theorem canFormat_holding {file text : String} {outcome : RunEnd}
    (hgiven : (holding file text outcome).tree.content? (.ofText file) =
      some (Utf8.encode text.toList)) (hbalanced : isBalanced text.toList = true) :
    CanFormat (holding file text outcome) file :=
  ⟨⟨_, hgiven, hbalanced⟩, ⟨_, rfl⟩, ⟨⟨"cljfmt", "cljfmt", ["fix", "-"]⟩, by decide, rfl⟩⟩

/-- A formatter that does no more than to leave the carriage returns out of the line ends changes
    nothing exactly if the line ends of the file are of one kind. Otherwise it is answered that the
    text has changed, and it is written. -/
theorem runFormat_lineFeeds {w : Workspace} {given : List Char} {errors : String}
    (hcode : (ps.get "code").isNull = true) (hpath : ps.get "file_path" = .text path)
    (hcan : CanFormat w path)
    (hgiven : w.tree.content? (.ofText path) = some (Utf8.encode given))
    (houtput : ∀ run, (w.programs.run run).1 =
      .finished 0 (String.ofList (lineFeeds given)) errors) :
    ∃ text changed w', (runFormat ps).perform w =
        (.ok (.ok (.formatted (String.ofList text) changed path)), w') ∧
      text = keepLineEnds given (lineFeeds given) ∧
      (changed = false ↔ UniformLineEnds given) ∧
      (changed = false → text = given ∧ w'.tree = w.tree) ∧
      (changed = true → text ≠ given ∧
        (path ≠ inlineName → w'.tree.content? (.ofText path) = some (Utf8.encode text))) := by
  obtain ⟨text, w', htext, hanswer, hwritten, hkept⟩ :=
    runFormat_of_canFormat hcode hpath hcan hgiven houtput
  rw [String.toList_ofList] at htext
  have hsame : (text != given) = false ↔ text = given := by simp
  refine ⟨text, text != given, w', hanswer, htext, ?_, ?_, ?_⟩
  · rw [hsame, htext, keepLineEnds_lineFeeds_iff]
  · intro h
    exact ⟨hsame.1 h, hkept (.inr (hsame.1 h))⟩
  · intro h
    exact ⟨bne_iff_ne.1 h, hwritten⟩

/-- Line ends that all have carriage returns get them back, and nothing is written. -/
theorem runFormat_lineFeeds_uniform :
    let given := "(a)\r\n(b)\r\n".toList
    let w := holding "c.clj" "(a)\r\n(b)\r\n" (.finished 0 "(a)\n(b)\n" "")
    let ps : Parameters := [("file_path", .text "c.clj")]
    (ps.get "code").isNull = true ∧ CanFormat w "c.clj" ∧
      w.tree.content? (.ofText "c.clj") = some (Utf8.encode given) ∧
      String.ofList (lineFeeds given) = "(a)\n(b)\n" ∧
      ∃ w', (runFormat ps).perform w =
          (.ok (.ok (.formatted "(a)\r\n(b)\r\n" false "c.clj")), w') ∧ w'.tree = w.tree := by
  intro given w ps
  have hcode : (ps.get "code").isNull = true := by decide
  have hgiven : w.tree.content? (.ofText "c.clj") = some (Utf8.encode given) := by
    decide +kernel
  have hcan : CanFormat w "c.clj" := canFormat_holding hgiven (by decide +kernel)
  have hfeeds : String.ofList (lineFeeds given) = "(a)\n(b)\n" := by decide
  have houtput : ∀ run, (w.programs.run run).1 =
      .finished 0 (String.ofList (lineFeeds given)) "" := by
    intro run
    rw [hfeeds]
    rfl
  refine ⟨hcode, hcan, hgiven, hfeeds, ?_⟩
  obtain ⟨text, changed, w', hanswer, -, huniform, hkept, -⟩ :=
    runFormat_lineFeeds hcode rfl hcan hgiven houtput
  obtain rfl : changed = false := huniform.2 (by decide)
  obtain ⟨rfl, htree⟩ := hkept rfl
  exact ⟨w', hanswer, htree⟩

/-- One carriage return that is missing, and all line ends are written anew. -/
theorem runFormat_lineFeeds_mixed :
    let given := "(a)\r\n(b)\n".toList
    let w := holding "c.clj" "(a)\r\n(b)\n" (.finished 0 "(a)\n(b)\n" "")
    let ps : Parameters := [("file_path", .text "c.clj")]
    isBalanced given = true ∧ w.tree.content? (.ofText "c.clj") = some (Utf8.encode given) ∧
      String.ofList (lineFeeds given) = "(a)\n(b)\n" ∧
      ∃ w', (runFormat ps).perform w =
          (.ok (.ok (.formatted "(a)\r\n(b)\r\n" true "c.clj")), w') ∧
        w'.tree.content? (.ofText "c.clj") = some (Utf8.encode "(a)\r\n(b)\r\n".toList) := by
  intro given w ps
  have hbalanced : isBalanced given = true := by decide +kernel
  have hgiven : w.tree.content? (.ofText "c.clj") = some (Utf8.encode given) := by
    decide +kernel
  have hcode : (ps.get "code").isNull = true := by decide
  obtain ⟨text, w', rfl, hanswer, hwritten, -⟩ := runFormat_of_canFormat hcode rfl
    (canFormat_holding hgiven hbalanced) hgiven fun _ => rfl
  exact ⟨hbalanced, hgiven, by decide, w', hanswer, hwritten (by decide)⟩

end Command

end FormEdit
