import FormEdit.Formatter
import FormEdit.Nrepl.Discovery
import FormEdit.Proofs.Workspace.Action

set_option autoImplicit false

/-! # Actions that keep the files

Reading settings and files, running programs and talking to servers leave the files as they are. -/

namespace FormEdit

open FormEdit.Action

namespace Settings

theorem looks_homeFolder : Looks homeFolder := by
  unfold homeFolder
  refine Looks.get.bind fun w => ?_
  split
  · exact .pure _
  · exact .throw _

theorem looks_file : Looks file := by
  unfold file
  refine looks_homeFolder.bind fun home => Looks.get.bind fun w => ?_
  split
  · exact .pure _
  · split
    · exact .throw _
    · split
      · exact .pure _
      · exact .throw _

theorem looks_chosen (name key : String) (default : Toml.Item) :
    Looks (chosen name key default) := by
  unfold chosen
  refine Looks.get.bind fun w => ?_
  cases w.environment? name with
  | some s => exact .pure _
  | none => exact (looks_file.bind fun entries => .pure _).bind fun i => .pure _

theorem looks_number (name key : String) (default : Int) : Looks (number name key default) := by
  unfold number
  refine (looks_chosen _ _ _).bind fun i => ?_
  split
  · exact .pure _
  · exact .throw _
  · exact .pure _

theorem looks_text (name key default : String) : Looks (text name key default) := by
  unfold text
  refine (looks_chosen _ _ _).bind fun i => ?_
  split
  · exact .pure _
  · exact .throw _

theorem looks_load : Looks load := by
  unfold load
  refine (looks_number _ _ _).bind fun readLimit => ?_
  refine (looks_number _ _ _).bind fun globLimit => ?_
  refine (looks_number _ _ _).bind fun grepLimit => ?_
  refine (looks_text _ _ _).bind fun host => ?_
  refine (looks_number _ _ _).bind fun evalTimeout => ?_
  refine (looks_number _ _ _).bind fun formatTimeout => ?_
  refine (looks_homeFolder.bind fun home => looks_text _ _ _).bind fun logFolder => ?_
  refine (looks_text _ _ _).bind fun placeholder => ?_
  split
  · exact .throw_bind _ _
  · exact .pure _

/-- Reading the settings keeps all but the settings. -/
theorem current_meets (w : Workspace) :
    current.Meets w fun _ w' => ∃ s, w' = { w with settings := s } := by
  unfold current
  refine Meets.get_bind ?_
  cases hs : w.settings with
  | some s => exact ⟨w.settings, rfl⟩
  | none =>
    refine (looks_load w).bind ?_ fun e w' h => ⟨w.settings, h⟩
    rintro s w' rfl
    exact ⟨some s, rfl⟩

theorem keepsTree_current : KeepsTree current := by
  intro w
  refine (current_meets w).imp ?_
  rintro r w' ⟨s, rfl⟩
  rfl

end Settings

theorem Action.keepsTree_runProgram (r : ProgramRun) : KeepsTree (runProgram r) := fun _ => rfl

namespace Formatting

theorem keepsTree_create (formatters : Option (List Formatter)) (timeout : Option Value) :
    KeepsTree (create formatters timeout) := by
  unfold create
  cases timeout with
  | some timeout => exact .pure _
  | none => exact Settings.keepsTree_current.bind fun s => .pure _


theorem keepsTree_format (f : Formatting) (code : Value) : KeepsTree (f.format code) := by
  unfold format
  split
  · split
    · exact .pure _
    · refine KeepsTree.bind ?_ fun found => ?_
      · exact KeepsTree.get.bind fun w => .pure _
      · cases found with
        | none => exact .pure _
        | some formatter => exact (keepsTree_runProgram _).bind fun outcome => .pure _
  · exact .pure _

end Formatting

/-- A client changes the network only. -/
theorem keepsTree_exchange {α : Type} (x : Exchange α) (c : Client) : KeepsTree (x.run c) :=
  fun _ => rfl

/-- A client that is made is not connected and has received nothing. Making it changes no more than
    the settings. -/
theorem Client.create_meets (host port patience : Value) (w : Workspace) :
    (create host port patience).Meets w fun r w' =>
      (∃ s, w' = { w with settings := s }) ∧
        ∀ c, r = .ok c → c.connected = false ∧ c.stream = .empty := by
  unfold create
  refine (Settings.current_meets w).bind ?_ fun e w' h => ⟨h, nofun⟩
  intro settings w' hw'
  dsimp only
  split
  · refine Meets.bind (Q := fun _ w₁ => w₁ = w') rfl ?_ fun e w₁ h => ⟨h ▸ hw', nofun⟩
    rintro n w₁ rfl
    split
    · exact ⟨hw', nofun⟩
    · refine ⟨hw', ?_⟩
      rintro c ⟨⟩
      exact ⟨rfl, rfl⟩
  · exact ⟨hw', nofun⟩
  · exact ⟨hw', nofun⟩
  · exact ⟨hw', nofun⟩

theorem Client.keepsTree_create (host port patience : Value) :
    KeepsTree (create host port patience) := by
  intro w
  refine (create_meets host port patience w).imp ?_
  rintro r w' ⟨⟨s, rfl⟩, -⟩
  rfl

theorem keepsTree_evalCode (code port host patience : Value) :
    KeepsTree (evalCode code port host patience) := by
  unfold evalCode
  refine (Client.keepsTree_create _ _ _).bind fun client => ?_
  refine KeepsTree.get.bind fun w => ?_
  refine (keepsTree_exchange _ _).bind fun ⟨outcome, _⟩ => ?_
  dsimp only
  split
  · exact .pure _
  · exact .pure _
  · exact .throw _

theorem keepsTree_discoverServers (folder host : Value) :
    KeepsTree (discoverServers folder host) := by
  unfold discoverServers
  refine KeepsTree.get.bind fun w => ?_
  dsimp only
  refine KeepsTree.ite_bind ((KeepsTree.ofExcept _).map _) (.pure _) fun root => ?_
  refine KeepsTree.ite_bind (.pure _) (Settings.keepsTree_current.map _) fun host => ?_
  refine KeepsTree.get_bind fun w => ?_
  split
  · rfl
  · rfl

end FormEdit
