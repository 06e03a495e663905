import FormEdit.Command.Dispatch
import FormEdit.Proofs.Edit.Wrap
import FormEdit.Proofs.Text.Utf8
import FormEdit.Proofs.Workspace.Keep
import FormEdit.Proofs.Workspace.Tree

set_option autoImplicit false

/-! # What commands do to files

Two commands write, and only at their end: a source that came from a file is written back over it
when all else has succeeded. So a command that succeeds has changed one file that was there at most,
and one that answers with an error has changed nothing, but for a wrap that makes a text with
surrogates: it is found out when the file is open already that the text cannot be written, and the
file is left empty (`Command.handle_changes_one_file`). -/

namespace FormEdit

open FormEdit.Action

open Utf8 (StandIns)

/-! ## Reading and writing back -/

/-- The sources that parameters give: their code, or the text of the file that they name. -/
inductive Source.Found (ps : Parameters) (t : FileTree) : Source → Prop
  | code (h : (ps.get "code").isNull = false) : Found ps t ⟨ps.get "code", inlineName⟩
  | file {path : String} {old : List UInt8} {s : List Char} (hcode : (ps.get "code").isNull = true)
      (htruthy : (ps.get "file_path").truthy = true) (hpath : ps.get "file_path" = .text path)
      (hold : t.content? (.ofText path) = some old) (hs : Utf8.decode old = .ok s) :
      Found ps t ⟨.text (String.ofList s), path⟩

theorem Value.pathText_eq_ok {v : Value} {s : String} (h : v.pathText = .ok s) : v = .text s := by
  cases v <;> cases h
  rfl

theorem Files.textOf_eq_ok {path : String} {content : Option (List UInt8)} {s : List Char}
    (h : textOf path content = .ok s) : ∃ old, content = some old ∧ Utf8.decode old = .ok s := by
  unfold textOf at h
  split at h
  · cases h
  · next old =>
    split at h
    · next hs =>
      cases h
      exact ⟨old, rfl, hs⟩
    · cases h

/-- Reading a file looks at the tree only. -/
theorem Files.readText_meets (path : String) (w : Workspace) :
    (readText path).Meets w fun r w' =>
      w' = w ∧ r = .ok (textOf path (w.tree.content? (.ofText path))) := ⟨rfl, rfl⟩

theorem findSource_meets (ps : Parameters) (w : Workspace) :
    (findSource ps).Meets w fun r w' =>
      w' = w ∧ ∀ source, r = .ok (.ok source) → source.Found ps w.tree := by
  unfold findSource
  dsimp only
  by_cases hcode : (ps.get "code").isNull = true
  · rw [hcode, if_neg (by decide)]
    by_cases htruthy : (ps.get "file_path").truthy = true
    · rw [htruthy, if_neg (by decide)]
      refine (Meets.ofExcept _ _).bind ?_ fun e w' h => ⟨h.2, nofun⟩
      rintro path w' ⟨hpath, rfl⟩
      refine (Files.readText_meets path w').bind ?_ fun e w₁ h => ⟨h.1, nofun⟩
      rintro r w₁ ⟨rfl, hr⟩
      cases r with
      | error e => exact ⟨rfl, nofun⟩
      | ok s =>
        refine ⟨rfl, ?_⟩
        rintro source ⟨⟩
        obtain ⟨old, hold, hs⟩ := Files.textOf_eq_ok (Except.ok.inj hr).symm
        exact .file hcode htruthy (Value.pathText_eq_ok hpath.symm) hold hs
    · rw [if_pos (by simpa using htruthy)]
      exact ⟨rfl, nofun⟩
  · rw [if_pos (by simpa using hcode)]
    refine ⟨rfl, ?_⟩
    rintro source ⟨⟩
    exact .code (by simpa using hcode)

/-- The text of a file is found where the parameters name one that holds text. -/
theorem findSource_of_file {ps : Parameters} {w : Workspace} {path : String} {old : List UInt8}
    {source : List Char} (hcode : (ps.get "code").isNull = true)
    (htruthy : (ps.get "file_path").truthy = true) (hpath : ps.get "file_path" = .text path)
    (hold : w.tree.content? (.ofText path) = some old) (hsource : Utf8.decode old = .ok source) :
    (findSource ps).Meets w fun r w' =>
      r = .ok (.ok ⟨.text (String.ofList source), path⟩) ∧ w' = w := by
  unfold findSource
  dsimp only
  rw [hcode, if_neg (by decide), htruthy, if_neg (by decide), hpath]
  refine (Meets.ofExcept _ w).bind_ok ?_
  rintro w' rfl
  refine (Files.readText_meets path w').bind ?_ fun e w₁ h => nomatch h.2
  rintro r w₁ ⟨rfl, hr⟩
  have hread : Files.textOf path (some old) = .ok source := by
    unfold Files.textOf
    dsimp only
    rw [hsource]
  rw [hold, hread] at hr
  cases hr
  exact ⟨rfl, rfl⟩

/-- A file that is there is written, unless the text holds surrogates, which leaves it empty. -/
theorem Files.write_meets {w : Workspace} {path : String} {old : List UInt8}
    (h : w.tree.content? (.ofText path) = some old) (u : StandIns) (text : String) :
    (Files.write u (.text path) (.text text)).Meets w fun r w' =>
      (Utf8.Writable u text.toList ∧ (∃ said, r = .ok (.ok said)) ∧
        w.tree.Rewrites w'.tree (.ofText path) old (Utf8.encode text.toList)) ∨
      ∃ x, Utf8.write u text.toList = .error x ∧ r = .error (.unwritable x) ∧
        w.tree.Rewrites w'.tree (.ofText path) old [] := by
  unfold Files.write
  refine (Meets.ofExcept _ w).bind_ok ?_
  rintro w' rfl
  refine Meets.get_bind ?_
  cases hwrite : Utf8.write u text.toList with
  | ok bytes =>
    obtain ⟨hwritable, rfl⟩ := Utf8.write_eq_ok_iff.1 hwrite
    obtain ⟨t, ht, hrewrites⟩ := FileTree.write_existing h (Utf8.encode text.toList)
    have hbytes : bytesToWrite u (.text text) = .ok (Utf8.encode text.toList) := by
      rw [bytesToWrite, hwrite]
      rfl
    simp only [hbytes, Except.toOption, Option.getD_some, ht]
    exact .inl ⟨hwritable, ⟨_, rfl⟩, hrewrites⟩
  | error x =>
    obtain ⟨t, ht, hrewrites⟩ := FileTree.write_existing h []
    have hbytes : bytesToWrite u (.text text) = .error (.unwritable x) := by
      rw [bytesToWrite, hwrite]
      rfl
    simp only [hbytes, Except.toOption, Option.getD_none, ht]
    exact .inr ⟨x, rfl, rfl, hrewrites⟩

/-- A text that was read holds no surrogates, and a file that is there is written with it. -/
theorem Files.write_read_meets {w : Workspace} {path : String} {old : List UInt8}
    (h : w.tree.content? (.ofText path) = some old) (text : String) :
    (Files.write [] (.text path) (.text text)).Meets w fun r w' =>
      (∃ said, r = .ok (.ok said)) ∧
        w.tree.Rewrites w'.tree (.ofText path) old (Utf8.encode text.toList) := by
  refine (Files.write_meets h [] text).imp ?_
  rintro r w' (⟨-, hwritten⟩ | ⟨x, hx, -⟩)
  · exact hwritten
  · rw [Utf8.write_of_writable fun _ _ => rfl] at hx
    cases hx

namespace Command

variable {ps : Parameters} {w : Workspace}

/-! ## Commands that write -/

/-- What a wrap that is to write makes: the file that it is about and what this holds, the source
    that it reads there, the line, and the text that it is to write. -/
structure Wrapping where
  path : String
  old : List UInt8
  source : List Char
  line : Int
  text : List Char

namespace Wrapping

/-- Whether a wrap with these parameters makes this: the file holds the text of a source, and what
    came of the wrap of this source is to be written in its place. -/
structure Made (m : Wrapping) (ps : Parameters) (w : Workspace) : Prop where
  toWrite : isToWrite ps = true
  template : (ps.get "template").truthy = true
  path : ps.get "file_path" = .text m.path
  old : w.tree.content? (.ofText m.path) = some m.old
  source : Utf8.decode m.old = .ok m.source
  line : wholeParameter (ps.get "line") = .ok (some m.line)
  text : ∃ settings, (Settings.current.perform w).1 = .ok settings ∧
    wrapSourceValue (.text (String.ofList m.source)) (.int m.line)
      (.made (ps.get "template") settings.placeholder.toList) = .ok m.text

/-- Parameters make one thing at most. -/
theorem Made.unique {m m' : Wrapping} (h : m.Made ps w) (h' : m'.Made ps w) : m' = m := by
  obtain ⟨path, old, source, line, text⟩ := m
  obtain ⟨path', old', source', line', text'⟩ := m'
  obtain rfl : path' = path := Value.text.inj (h'.path.symm.trans h.path)
  obtain rfl : old' = old := Option.some.inj (h'.old.symm.trans h.old)
  obtain rfl : source' = source := Except.ok.inj (h'.source.symm.trans h.source)
  obtain rfl : line' = line := Option.some.inj (Except.ok.inj (h'.line.symm.trans h.line))
  obtain ⟨settings, hsettings, htext⟩ := h.text
  obtain ⟨settings', hsettings', htext'⟩ := h'.text
  obtain rfl : settings' = settings := Except.ok.inj (hsettings'.symm.trans hsettings)
  obtain rfl : text' = text := Except.ok.inj (htext'.symm.trans htext)
  rfl

/-- Around the form the source is as it was. -/
theorem Made.around {m : Wrapping} (h : m.Made ps w) :
    ∃ (f : LocatedForm) (k : Nat) (wrapped : List Char),
      FormEdit.locate m.source m.line = some f ∧ f.start.offset = k ∧
      (m.source.drop k).take f.text.length = f.text ∧
      m.text = m.source.take k ++ (wrapped ++ m.source.drop (k + f.text.length)) := by
  obtain ⟨settings, -, htext⟩ := h.text
  have haround := exists_around_of_wrapSourceValue htext
  rwa [String.toList_ofList] at haround

end Wrapping

/-- Whether a wrap has written back what it answers: the text that it makes of the source in the
    file that the parameters name. Around the form the source is as it was. -/
def WrapWrites (ps : Parameters) (w : Workspace) (result : CommandResult) (t : FileTree) : Prop :=
  ∃ m : Wrapping, m.Made ps w ∧ Utf8.Writable w.limits.standIns m.text ∧
    result = .wrapped m.path m.line m.text true ∧
    w.tree.Rewrites t (.ofText m.path) m.old (Utf8.encode m.text) ∧
    ∃ (f : LocatedForm) (k : Nat) (wrapped : List Char),
      FormEdit.locate m.source m.line = some f ∧ f.start.offset = k ∧
      (m.source.drop k).take f.text.length = f.text ∧
      m.text = m.source.take k ++ (wrapped ++ m.source.drop (k + f.text.length))

/-- Whether a wrap has left the file empty that it was to write: the text that it makes of the
    source in the file holds surrogates, which are why it fails. -/
def WrapEmpties (ps : Parameters) (w : Workspace) (x : Utf8.Unwritable) (t : FileTree) : Prop :=
  ∃ m : Wrapping, m.Made ps w ∧ Utf8.write w.limits.standIns m.text = .error x ∧
    w.tree.Rewrites t (.ofText m.path) m.old []

/-- Whether a formatting has written back what it answers. -/
def FormatWrites (ps : Parameters) (w : Workspace) (result : CommandResult) (t : FileTree) : Prop :=
  ∃ (path : String) (old : List UInt8) (text : String),
    (ps.get "code").isNull = true ∧ ps.get "file_path" = .text path ∧
    result = .formatted text true path ∧
    w.tree.Rewrites t (.ofText path) old (Utf8.encode text.toList)

/-- A source that is to be written back is the text of the file that the parameters name. -/
theorem isToWrite_found {source : Source} (h : isToWrite ps = true)
    (hfound : source.Found ps w.tree) :
    ∃ (path : String) (old : List UInt8) (s : List Char), ps.get "file_path" = .text path ∧
      w.tree.content? (.ofText path) = some old ∧ Utf8.decode old = .ok s ∧
      source = ⟨.text (String.ofList s), path⟩ := by
  cases hfound with
  | code hcode =>
    rw [isToWrite, hcode] at h
    cases h
  | file hcode htruthy hpath hold hs => exact ⟨_, _, _, hpath, hold, hs, rfl⟩

/-- A wrap that makes a text that is to be written answers with it, or leaves the file empty. -/
theorem runWrap_of_made {m : Wrapping} (hm : m.Made ps w) :
    (runWrap ps).Meets w fun r w' =>
      (∃ result, r = .ok (.ok result) ∧ WrapWrites ps w result w'.tree) ∨
        ∃ x, r = .error (.unwritable x) ∧ WrapEmpties ps w x w'.tree := by
  obtain ⟨settings, hsettings, htext⟩ := hm.text
  obtain ⟨⟨hcode, htruthy⟩, -⟩ := by simpa only [isToWrite, Bool.and_eq_true] using hm.toWrite
  unfold runWrap
  rw [hm.line]
  refine (Meets.ofExcept _ w).bind_ok ?_
  rintro w' rfl
  dsimp only
  rw [hm.template, if_neg (by decide)]
  refine (findSource_of_file hcode htruthy hm.path hm.old hm.source).bind_ok ?_
  rintro w' rfl
  refine Meets.bind_ok (R := fun w₁ => ∃ s, w₁ = { w' with settings := s })
    ⟨hsettings, Settings.current_meets w'⟩ ?_
  rintro _ ⟨s, rfl⟩
  have hold : ({ w' with settings := s } : Workspace).tree.content? (.ofText m.path) =
    some m.old := hm.old
  rw [htext, hm.toWrite]
  refine Meets.get_bind ?_
  refine (Files.write_meets hold _ _).bind ?_ ?_
  · rintro outcome w₂ (⟨hwritable, ⟨said, ⟨⟩⟩, hrewrites⟩ | ⟨x, -, ⟨⟩, -⟩)
    rw [String.toList_ofList] at hwritable hrewrites
    exact .inl ⟨_, rfl, m, hm, hwritable, rfl, hrewrites, hm.around⟩
  · rintro e w₂ (⟨-, ⟨said, ⟨⟩⟩, -⟩ | ⟨x, hx, ⟨⟩, hrewrites⟩)
    rw [String.toList_ofList] at hx
    exact .inr ⟨x, rfl, m, hm, hx, hrewrites⟩

/-- A wrap that makes no text to be written leaves the files, and does not succeed if it is to
    write. -/
theorem runWrap_of_not_made (hno : ∀ m : Wrapping, ¬ m.Made ps w) :
    (runWrap ps).Meets w fun r w' =>
      w'.tree = w.tree ∧ (isToWrite ps = true → ∀ result, r ≠ .ok (.ok result)) := by
  unfold runWrap
  refine (Meets.ofExcept _ _).bind ?_ fun e w' h => ⟨congrArg Workspace.tree h.2, nofun⟩
  rintro line w' ⟨hline, rfl⟩
  cases line with
  | none => exact ⟨rfl, nofun⟩
  | some line =>
    dsimp only
    split
    · exact ⟨rfl, nofun⟩
    next htemplate =>
    refine (findSource_meets ps w').bind ?_ fun e w₁ h => ⟨congrArg Workspace.tree h.1, nofun⟩
    rintro found w₁ ⟨rfl, hfound⟩
    cases found with
    | error e => exact ⟨rfl, nofun⟩
    | ok source =>
      refine Meets.bind (Q := fun r w₂ => r = (Settings.current.perform w₁).1 ∧ w₂.tree = w₁.tree)
        ⟨rfl, Settings.keepsTree_current w₁⟩ ?_ fun e w₂ h => ⟨h.2, nofun⟩
      rintro settings w₂ ⟨hsettings, htree⟩
      split
      · exact ⟨htree, nofun⟩
      next text htext =>
      split
      · next hwrite =>
        obtain ⟨path, old, s, hpath, hold, hs, rfl⟩ := isToWrite_found hwrite (hfound source rfl)
        exact absurd ⟨hwrite, by simpa using htemplate, hpath, hold, hs, hline.symm, settings,
          hsettings.symm, htext⟩ (hno ⟨path, old, s, line, text⟩)
      · next hwrite => exact ⟨htree, fun h => absurd h hwrite⟩

/-- A formatting leaves the files, or it succeeds and has written back what it answers. -/
theorem runFormat_meets (ps : Parameters) (w : Workspace) :
    (runFormat ps).Meets w fun r w' =>
      w'.tree = w.tree ∨ ∃ result, r = .ok (.ok result) ∧ FormatWrites ps w result w'.tree := by
  unfold runFormat
  refine (findSource_meets ps w).bind ?_ fun e w₁ h => .inl (congrArg Workspace.tree h.1)
  rintro found w₁ ⟨rfl, hfound⟩
  cases found with
  | error e => exact .inl rfl
  | ok source =>
    refine (Formatting.keepsTree_create none none w₁).bind ?_ fun e w₂ h => .inl h
    intro formatting w₂ hcreate
    refine (formatting.keepsTree_format source.text w₂).bind ?_ fun e w₃ h => .inl (h.trans hcreate)
    intro formatted w₃ hformat
    have htree := hformat.trans hcreate
    cases formatted with
    | error e => exact .inl htree
    | ok output =>
      dsimp only
      split
      · next hwrite =>
        obtain ⟨hname, hchanged⟩ := Bool.and_eq_true_iff.1 hwrite
        cases hfound source rfl with
        | code hcode => cases hname
        | @file path old s hcode htruthy hpath hold hs =>
          rw [← htree] at hold
          refine (Files.write_read_meets hold _).bind ?_ ?_
          · rintro outcome w₄ ⟨⟨said, ⟨⟩⟩, hrewrites⟩
            rw [htree] at hrewrites
            rw [hchanged]
            exact .inr ⟨_, rfl, path, old, _, hcode, hpath, rfl, hrewrites⟩
          · rintro e w₄ ⟨⟨said, ⟨⟩⟩, -⟩
      · exact .inl htree

/-! ## Commands that only read -/

theorem keepsTree_findSource (ps : Parameters) : KeepsTree (findSource ps) := by
  intro w
  refine (findSource_meets ps w).imp ?_
  rintro r w' ⟨rfl, -⟩
  rfl

theorem keepsTree_runCheck (ps : Parameters) : KeepsTree (runCheck ps) := by
  unfold runCheck
  refine (keepsTree_findSource ps).bind fun found => ?_
  cases found with
  | error e => exact .pure _
  | ok source => exact (KeepsTree.ofExcept _).bind fun issue => .pure _

theorem keepsTree_runLocate (ps : Parameters) : KeepsTree (runLocate ps) := by
  unfold runLocate
  refine (KeepsTree.ofExcept _).bind fun line => ?_
  cases line with
  | none => exact .pure _
  | some line =>
    refine (keepsTree_findSource ps).bind fun found => ?_
    cases found with
    | error e => exact .pure _
    | ok source =>
      dsimp only
      split
      · exact .pure _
      · split
        · exact .throw_bind _ _
        · exact .pure _

theorem keepsTree_runEval (ps : Parameters) : KeepsTree (runEval ps) := by
  unfold runEval
  refine (KeepsTree.ofExcept _).bind fun port => ?_
  dsimp only
  split
  · refine KeepsTree.ite_bind (.pure _) (Settings.keepsTree_current.map _) fun host => ?_
    refine (KeepsTree.ofExcept _).bind fun patience => ?_
    refine (keepsTree_evalCode _ _ _ _).bind fun outcome => ?_
    cases outcome with
    | error e => exact .pure _
    | ok output => exact .pure _
  · exact .pure _

theorem keepsTree_runDiscover (ps : Parameters) : KeepsTree (runDiscover ps) := by
  unfold runDiscover
  refine (keepsTree_discoverServers _ _).bind fun outcome => ?_
  cases outcome with
  | error e => exact .pure _
  | ok servers => exact .pure _

/-! ## All commands -/

/-- What a command does to files, when `shows` is how it shows that a text cannot be written: it
    leaves them, as a wrap does that makes no text to be written, or it succeeds as one of the two
    that write, or it is a wrap that fails and leaves its file empty. -/
inductive Effect (c : Command) (ps : Parameters) (w : Workspace)
    (shows : Utf8.Unwritable → Except Failure Response) :
    Except Failure Response → FileTree → Prop
  | keeps {r : Except Failure Response}
    (hwrap : c = wrap → (∀ m : Wrapping, ¬ m.Made ps w) ∧
      (isToWrite ps = true → ∀ result, r ≠ .ok (.ok result))) : Effect c ps w shows r w.tree
  | wraps {result : CommandResult} {t : FileTree} (hc : c = wrap)
    (hwrites : WrapWrites ps w result t) : Effect c ps w shows (.ok (.ok result)) t
  | formats {result : CommandResult} {t : FileTree} (hc : c = format)
    (hwrites : FormatWrites ps w result t) : Effect c ps w shows (.ok (.ok result)) t
  | empties {x : Utf8.Unwritable} {t : FileTree} (hc : c = wrap) (hempties : WrapEmpties ps w x t) :
    Effect c ps w shows (shows x) t

section

variable {c : Command} {shows : Utf8.Unwritable → Except Failure Response}
  {r : Except Failure Response} {t : FileTree} {result : CommandResult}

theorem Effect.of_eq (ht : t = w.tree) (hc : c ≠ wrap) : c.Effect ps w shows r t := by
  subst ht
  exact .keeps fun hwrap => absurd hwrap hc

/-- What is no success leaves the files, or it shows that a wrap has left its file empty. -/
theorem Effect.of_not_ok (h : c.Effect ps w shows r t) (hno : ∀ result, r ≠ .ok (.ok result)) :
    t = w.tree ∨ c = wrap ∧ ∃ x, r = shows x ∧ WrapEmpties ps w x t := by
  cases h with
  | keeps => exact .inl rfl
  | wraps => exact absurd rfl (hno _)
  | formats => exact absurd rfl (hno _)
  | empties hc hempties => exact .inr ⟨hc, _, rfl, hempties⟩

/-- A success leaves the files, or it is one of the two commands that write. -/
theorem Effect.of_ok (h : c.Effect ps w shows r t) (hr : r = .ok (.ok result))
    (hshows : ∀ x, shows x ≠ .ok (.ok result)) :
    t = w.tree ∨ c = wrap ∧ isToWrite ps = true ∧ WrapWrites ps w result t ∨
      c = format ∧ FormatWrites ps w result t := by
  cases h with
  | keeps => exact .inl rfl
  | wraps hc hwrites =>
    cases hr
    obtain ⟨m, hm, -⟩ := id hwrites
    exact .inr (.inl ⟨hc, hm.toWrite, hwrites⟩)
  | formats hc hwrites =>
    cases hr
    exact .inr (.inr ⟨hc, hwrites⟩)
  | empties => exact absurd hr (hshows _)

/-- A wrap that is to write and succeeds has written. -/
theorem Effect.of_wrap_ok (h : wrap.Effect ps w shows r t) (hr : r = .ok (.ok result))
    (hshows : ∀ x, shows x ≠ .ok (.ok result)) (hwrite : isToWrite ps = true) :
    WrapWrites ps w result t := by
  cases h with
  | keeps hwrap => exact absurd hr ((hwrap rfl).2 hwrite result)
  | wraps hc hwrites =>
    cases hr
    exact hwrites
  | formats hc => cases hc
  | empties => exact absurd hr (hshows _)

/-- The other commands leave the files. -/
theorem Effect.eq_tree (h : c.Effect ps w shows r t) (hwrap : c ≠ wrap) (hformat : c ≠ format) :
    t = w.tree := by
  cases h with
  | keeps => rfl
  | wraps hc => exact absurd hc hwrap
  | formats hc => exact absurd hc hformat
  | empties hc => exact absurd hc hwrap

/-- A wrap that makes a text to be written succeeds if the text holds no surrogates, and else leaves
    its file empty. -/
theorem Effect.of_made (h : wrap.Effect ps w shows r t) {m : Wrapping} (hm : m.Made ps w) :
    (Utf8.Writable w.limits.standIns m.text → ∃ result, r = .ok (.ok result)) ∧
    ∀ x, Utf8.write w.limits.standIns m.text = .error x → r = shows x ∧ WrapEmpties ps w x t := by
  cases h with
  | keeps hwrap => exact absurd hm ((hwrap rfl).1 m)
  | wraps hc hwrites =>
    obtain ⟨m', hm', hwritable, -⟩ := hwrites
    rw [hm.unique hm'] at hwritable
    refine ⟨fun _ => ⟨_, rfl⟩, fun x hx => ?_⟩
    rw [Utf8.write_of_writable hwritable] at hx
    cases hx
  | formats hc => cases hc
  | empties hc hempties =>
    obtain ⟨m', hm', hx', -⟩ := id hempties
    rw [hm.unique hm'] at hx'
    refine ⟨fun hwritable => ?_, fun x hx => ?_⟩
    · rw [Utf8.write_of_writable hwritable] at hx'
      cases hx'
    · rw [hx'] at hx
      cases hx
      exact ⟨rfl, hempties⟩

end

theorem run_meets (c : Command) (ps : Parameters) (w : Workspace) :
    (c.run ps).Meets w fun r w' => c.Effect ps w (fun x => .error (.unwritable x)) r w'.tree := by
  cases c with
  | check => exact (keepsTree_runCheck ps w).imp fun r w' h => .of_eq h (by decide)
  | locate => exact (keepsTree_runLocate ps w).imp fun r w' h => .of_eq h (by decide)
  | eval => exact (keepsTree_runEval ps w).imp fun r w' h => .of_eq h (by decide)
  | discover => exact (keepsTree_runDiscover ps w).imp fun r w' h => .of_eq h (by decide)
  | wrap =>
    by_cases hmade : ∃ m : Wrapping, m.Made ps w
    · obtain ⟨m, hm⟩ := hmade
      refine (runWrap_of_made hm).imp ?_
      rintro r w' (⟨result, rfl, hwrites⟩ | ⟨x, rfl, hempties⟩)
      · exact .wraps rfl hwrites
      · exact .empties rfl hempties
    · rw [not_exists] at hmade
      refine (runWrap_of_not_made hmade).imp ?_
      rintro r w' ⟨htree, hno⟩
      rw [htree]
      exact .keeps fun _ => ⟨hmade, hno⟩
  | format =>
    refine (runFormat_meets ps w).imp ?_
    rintro r w' (htree | ⟨result, rfl, hwrites⟩)
    · exact .of_eq htree (by decide)
    · exact .formats rfl hwrites

/-- A failure of a command becomes an answer, and changes as little. -/
theorem tryCatch_meets (c : Command) (ps : Parameters) (w : Workspace) :
    Meets (tryCatch (c.run ps) fun failure => return .error (failed c failure)) w fun r w' =>
      c.Effect ps w (fun x => .ok (.error (failed c (.unwritable x)))) r w'.tree := by
  refine (run_meets c ps w).tryCatch ?_ ?_
  · intro a w' h
    generalize hr : (Except.ok a : Except Failure Response) = r at h
    generalize w'.tree = t at h ⊢
    cases h with
    | keeps hwrap => exact .keeps hwrap
    | wraps hc hwrites => exact .wraps hc hwrites
    | formats hc hwrites => exact .formats hc hwrites
    | empties => cases hr
  · intro failure w' h
    show Effect c ps w _ (.ok (.error (failed c failure))) w'.tree
    generalize hr : (Except.error failure : Except Failure Response) = r at h
    generalize w'.tree = t at h ⊢
    cases h with
    | keeps hwrap => exact .keeps fun hc => ⟨(hwrap hc).1, fun _ => nofun⟩
    | wraps => cases hr
    | formats => cases hr
    | empties hc hempties =>
      cases hr
      exact .empties hc hempties

theorem name_of_ofName? {s : String} {c : Command} (h : ofName? s = some c) : c.name = s := by
  simpa using List.find?_some h

/-- A name that is answered either names a command, whose effect it has, or changes nothing. -/
theorem handle_meets (name : Value) (ps : Parameters) (w : Workspace) :
    (handle name ps).Meets w fun r w' =>
      (∃ c : Command, name = .text c.name ∧
        c.Effect ps w (fun x => .ok (.error (failed c (.unwritable x)))) r w'.tree) ∨
      ((∀ c : Command, name ≠ .text c.name) ∧ w'.tree = w.tree ∧
        ∀ result, r ≠ .ok (.ok result)) := by
  unfold handle
  dsimp only
  by_cases hname : ∃ c : Command, name = .text c.name
  · obtain ⟨c, rfl⟩ := hname
    rw [if_neg (by simp [isLookupKey])]
    simp only [ofName?_name]
    exact (tryCatch_meets c ps w).imp fun r w' h => .inl ⟨c, rfl, h⟩
  · rw [not_exists] at hname
    split
    · exact .inr ⟨hname, rfl, nofun⟩
    · split
      · next s =>
        split
        · next c hc => exact absurd (congrArg Value.text (name_of_ofName? hc).symm) (hname c)
        · exact .inr ⟨hname, rfl, nofun⟩
      · exact .inr ⟨hname, rfl, nofun⟩

theorem name_inj {c c' : Command} (h : Value.text c.name = .text c'.name) : c = c' := by
  have hname : ofName? c.name = ofName? c'.name := by
    rw [Value.text.inj h]
  rw [ofName?_name, ofName?_name] at hname
  exact Option.some.inj hname

/-- The line end behind the form stays as it is. -/
example :
    let w : Workspace :=
      ⟨⟨[(["a.clj"], .file (Utf8.encode "(a)\r\n".toList))]⟩, "/w", [], none, none, .silent, .none,
        .closed, "1", .usual⟩
    let ps : Parameters :=
      [("file_path", .text "a.clj"), ("line", .int 1), ("template", .text "(do %s)")]
    ((handle (.text "wrap") ps).perform w).2.tree =
      ⟨[(["a.clj"], .file (Utf8.encode "(do (a))\r\n".toList))]⟩ := by
  decide +kernel

end Command

end FormEdit
