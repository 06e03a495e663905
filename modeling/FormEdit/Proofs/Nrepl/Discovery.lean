import FormEdit.Proofs.Workspace.Keep
import Mathlib.Data.List.Nodup

set_option autoImplicit false

/-! # Servers that are found

A port counts for the first file that names it, whatever the files before hold: a file that is not
there, is no text or is no numeral names none and is passed over (`mem_namedPorts_iff`). So every
port that is named is tried once, in the order of the files (`pairwise_namedPorts`), and those that
accept are the servers that are found (`discoverServers_finds`). -/

namespace FormEdit

open FormEdit.Action

/-! ## Naming ports -/

/-- Whether a file of a folder names a port: it is there and holds text, and without the blanks
    around it the text is a numeral of the port. -/
def NamesPort (t : FileTree) (root : Path) (names : List String) (port : Int) : Prop :=
  ∃ content text, t.content? (root.join names) = some content ∧ Utf8.decode content = .ok text ∧
    Numeral.ofText (strip text) = .ok port

/-- Whether the file at a place of a list is the first that names a port. -/
def FirstNames (t : FileTree) (root : Path) (files : List (List String)) (i : Nat) (port : Int) :
    Prop :=
  (∃ names, files[i]? = some names ∧ NamesPort t root names port) ∧
    ∀ k < i, ∀ names, files[k]? = some names → ¬ NamesPort t root names port

section

variable {t : FileTree} {root : Path} {names : List String} {files : List (List String)}
  {seen : List Int} {i : Nat} {port other : Int} {file : Path}

theorem portOf?_eq_some_iff {content : List UInt8} :
    portOf? content = some port ↔
      ∃ text, Utf8.decode content = .ok text ∧ Numeral.ofText (strip text) = .ok port := by
  unfold portOf?
  cases Utf8.decode content with
  | error e => simp
  | ok text =>
    simp only [Except.ok.injEq, exists_eq_left']
    cases Numeral.ofText (strip text) with
    | error e => simp [Except.toOption]
    | ok n => simp [Except.toOption]

/-- The port that is read from a file is the one that the file names. -/
theorem namesPort_iff :
    NamesPort t root names port ↔ (t.content? (root.join names)).bind portOf? = some port := by
  simp only [NamesPort, Option.bind_eq_some_iff, portOf?_eq_some_iff]
  constructor
  · rintro ⟨content, text, hcontent, htext⟩
    exact ⟨content, hcontent, text, htext⟩
  · rintro ⟨content, hcontent, text, htext⟩
    exact ⟨content, text, hcontent, htext⟩

/-- A file names no two ports. -/
theorem NamesPort.unique (h : NamesPort t root names port) (h' : NamesPort t root names other) :
    port = other := by
  rw [namesPort_iff] at h h'
  exact Option.some.inj (h.symm.trans h')

theorem firstNames_zero :
    FirstNames t root (names :: files) 0 port ↔ NamesPort t root names port := by
  constructor
  · rintro ⟨⟨_, ⟨⟩, h⟩, -⟩
    exact h
  · intro h
    exact ⟨⟨names, rfl, h⟩, fun k hk => absurd hk (Nat.not_lt_zero k)⟩

theorem firstNames_succ :
    FirstNames t root (names :: files) (i + 1) port ↔
      ¬ NamesPort t root names port ∧ FirstNames t root files i port := by
  constructor
  · rintro ⟨h, hbefore⟩
    refine ⟨hbefore 0 (Nat.succ_pos i) names rfl, h, fun k hk other hother => ?_⟩
    exact hbefore (k + 1) (Nat.succ_lt_succ hk) other hother
  · rintro ⟨hnot, h, hbefore⟩
    refine ⟨h, fun k hk other hother => ?_⟩
    cases k with
    | zero =>
      cases hother
      exact hnot
    | succ k => exact hbefore k (Nat.lt_of_succ_lt_succ hk) other hother

/-- A port has no two first files. -/
theorem FirstNames.unique {j : Nat} (hi : FirstNames t root files i port)
    (hj : FirstNames t root files j port) : i = j := by
  obtain ⟨⟨names, hn, hp⟩, hbefore⟩ := hi
  obtain ⟨⟨names', hn', hp'⟩, hbefore'⟩ := hj
  rcases Nat.lt_trichotomy i j with h | h | h
  · exact absurd hp (hbefore' i h names hn)
  · exact h
  · exact absurd hp' (hbefore j h names' hn')

/-- A port that some file names has a first one. -/
theorem exists_firstNames_iff :
    (∃ i, FirstNames t root files i port) ↔ ∃ names ∈ files, NamesPort t root names port := by
  constructor
  · rintro ⟨i, ⟨names, hn, hp⟩, -⟩
    exact ⟨names, List.mem_of_getElem? hn, hp⟩
  · rintro ⟨names, hmem, hp⟩
    induction files with
    | nil => cases hmem
    | cons first rest ih =>
      by_cases hfirst : NamesPort t root first port
      · exact ⟨0, firstNames_zero.2 hfirst⟩
      · rcases List.mem_cons.1 hmem with rfl | hmem
        · exact absurd hp hfirst
        · obtain ⟨i, hi⟩ := ih hmem
          exact ⟨i + 1, firstNames_succ.2 ⟨hfirst, hi⟩⟩

/-! ## The ports that are named -/

/-- The ports that come out are those that were not seen before, each with the first file that names
    it. -/
theorem mem_namedPorts_iff :
    (port, file) ∈ namedPorts t root seen files ↔
      port ∉ seen ∧ ∃ i names, files[i]? = some names ∧ file = root.join names ∧
        FirstNames t root files i port := by
  induction files generalizing seen with
  | nil => simp [namedPorts]
  | cons names files ih =>
    -- What the first file names settles whether the first file of a port is this one or a later one.
    have hcases : (∃ i names', (names :: files)[i]? = some names' ∧ file = root.join names' ∧
        FirstNames t root (names :: files) i port) ↔
        (file = root.join names ∧ NamesPort t root names port) ∨
          (¬ NamesPort t root names port ∧
            ∃ i names', files[i]? = some names' ∧ file = root.join names' ∧
              FirstNames t root files i port) := by
      constructor
      · rintro ⟨i, names', hn, hfile, hfirst⟩
        cases i with
        | zero =>
          cases hn
          exact .inl ⟨hfile, firstNames_zero.1 hfirst⟩
        | succ i =>
          obtain ⟨hnot, hfirst⟩ := firstNames_succ.1 hfirst
          exact .inr ⟨hnot, i, names', hn, hfile, hfirst⟩
      · rintro (⟨hfile, hp⟩ | ⟨hnot, i, names', hn, hfile, hfirst⟩)
        · exact ⟨0, names, rfl, hfile, firstNames_zero.2 hp⟩
        · exact ⟨i + 1, names', hn, hfile, firstNames_succ.2 ⟨hnot, hfirst⟩⟩
    rw [hcases, namedPorts]
    cases hp : (t.content? (root.join names)).bind portOf? with
    | none =>
      have hnot : ¬ NamesPort t root names port := by simp [namesPort_iff, hp]
      simp [ih, hnot]
    | some named =>
      have hiff : NamesPort t root names port ↔ named = port := by simp [namesPort_iff, hp]
      dsimp only
      split
      · next hseen =>
        rw [ih, hiff]
        have hmem : named ∈ seen := by simpa using hseen
        constructor
        · rintro ⟨hport, hrest⟩
          exact ⟨hport, .inr ⟨fun he => hport (he ▸ hmem), hrest⟩⟩
        · rintro ⟨hport, ⟨-, rfl⟩ | ⟨-, hrest⟩⟩
          · exact absurd hmem hport
          · exact ⟨hport, hrest⟩
      · next hseen =>
        rw [List.mem_cons, ih, hiff, Prod.mk.injEq, List.mem_cons, not_or]
        have hmem : named ∉ seen := by simpa using hseen
        constructor
        · rintro (⟨rfl, rfl⟩ | ⟨⟨hne, hport⟩, hrest⟩)
          · exact ⟨hmem, .inl ⟨rfl, rfl⟩⟩
          · exact ⟨hport, .inr ⟨fun he => hne he.symm, hrest⟩⟩
        · rintro ⟨hport, ⟨rfl, rfl⟩ | ⟨hne, hrest⟩⟩
          · exact .inl ⟨rfl, rfl⟩
          · exact .inr ⟨⟨fun he => hne he.symm, hport⟩, hrest⟩

/-- Every port that a file names comes out. -/
theorem mem_ports_namedPorts :
    port ∈ (namedPorts t root [] files).map Prod.fst ↔
      ∃ names ∈ files, NamesPort t root names port := by
  rw [← exists_firstNames_iff, List.mem_map]
  constructor
  · rintro ⟨⟨_, file⟩, hx, rfl⟩
    obtain ⟨-, i, -, -, -, hi⟩ := mem_namedPorts_iff.1 hx
    exact ⟨i, hi⟩
  · rintro ⟨i, hi⟩
    obtain ⟨names, hn, -⟩ := hi.1
    exact ⟨(port, root.join names), mem_namedPorts_iff.2 ⟨by simp, i, names, hn, rfl, hi⟩, rfl⟩

/-- The ports come out in the order of the first files that name them. -/
theorem pairwise_namedPorts :
    (namedPorts t root seen files).Pairwise fun a b =>
      ∀ i j, FirstNames t root files i a.1 → FirstNames t root files j b.1 → i < j := by
  induction files generalizing seen with
  | nil => exact .nil
  | cons names files ih =>
    -- A port that the first file does not name has its first file among the rest.
    have hlater : ∀ seen : List Int,
        (∀ x ∈ namedPorts t root seen files, ¬ NamesPort t root names x.1) →
        (namedPorts t root seen files).Pairwise fun a b =>
          ∀ i j, FirstNames t root (names :: files) i a.1 →
            FirstNames t root (names :: files) j b.1 → i < j := by
      intro seen hnot
      refine (@ih seen).imp_of_mem fun {a b} ha hb hab i j hi hj => ?_
      cases i with
      | zero => exact absurd (firstNames_zero.1 hi) (hnot a ha)
      | succ i =>
        cases j with
        | zero => exact absurd (firstNames_zero.1 hj) (hnot b hb)
        | succ j =>
          exact Nat.succ_lt_succ (hab i j (firstNames_succ.1 hi).2 (firstNames_succ.1 hj).2)
    rw [namedPorts]
    cases hp : (t.content? (root.join names)).bind portOf? with
    | none => exact hlater seen fun x _ hx => by simp [namesPort_iff, hp] at hx
    | some named =>
      have hnamed : NamesPort t root names named := namesPort_iff.2 hp
      have hnot : ∀ seen : List Int, named ∈ seen →
          ∀ x ∈ namedPorts t root seen files, ¬ NamesPort t root names x.1 := by
        intro seen hmem x hx hname
        exact (mem_namedPorts_iff.1 hx).1 (hname.unique hnamed ▸ hmem)
      dsimp only
      split
      · next hseen => exact hlater seen (hnot seen (by simpa using hseen))
      · refine List.pairwise_cons.2 ⟨fun b hb i j hi hj => ?_,
          hlater _ (hnot _ List.mem_cons_self)⟩
        obtain rfl := hi.unique (firstNames_zero.2 hnamed)
        cases j with
        | zero => exact absurd (firstNames_zero.1 hj) (hnot _ List.mem_cons_self b hb)
        | succ j => exact Nat.succ_pos j

/-- No port comes out twice. -/
theorem nodup_namedPorts : ((namedPorts t root seen files).map Prod.fst).Nodup := by
  have hordered : (namedPorts t root seen files).Pairwise _ := pairwise_namedPorts
  rw [List.Nodup, List.pairwise_map]
  refine hordered.imp_of_mem fun {a b} ha _ hab heq => ?_
  obtain ⟨-, i, -, -, -, hi⟩ := mem_namedPorts_iff.1 ha
  exact absurd (hab i i hi (heq ▸ hi)) (Nat.lt_irrefl i)

end

/-! ## Trying ports -/

namespace Network

/-- Whether a port accepts a connection. -/
def Accepts (n : Network) (port : Int) : Prop :=
  n.connectFailure = none ∧ ∀ ports, n.openPorts = some ports → port ∈ ports

/-- Connecting records the connection, and fails exactly if the port does not accept. -/
theorem connect_spec (n : Network) (host : Value) (port : Int) :
    ((n.connect host port).1 = none ↔ n.Accepts port) ∧
      (n.connect host port).2 = { n with connections := (host, port) :: n.connections } := by
  refine ⟨?_, rfl⟩
  unfold connect Accepts
  cases n.connectFailure with
  | some reason => simp
  | none =>
    cases n.openPorts with
    | none => simp
    | some ports =>
      dsimp only
      split
      · next h => simpa using h
      · next h => simpa using h

/-- The network after some ports have been tried. -/
def tried (host : Value) (ports : List Int) (n : Network) : Network :=
  { n with connections := (ports.map (host, ·)).reverse ++ n.connections }

theorem tried_cons (host : Value) (port : Int) (ports : List Int) (n : Network) :
    tried host (port :: ports) n =
      tried host ports { n with connections := (host, port) :: n.connections } := by
  simp [tried]

end Network

/-- Every port is tried, and those that accept come out, in their order. -/
theorem probe_spec (host : Value) (named : List (Int × Path)) (n : Network) :
    (∀ s, s ∈ (probe host named n).1 ↔
      ∃ x ∈ named, n.Accepts x.1 ∧ s = ⟨host, x.1, x.2.text⟩) ∧
    ((probe host named n).1.map FoundServer.port).Sublist (named.map Prod.fst) ∧
    (probe host named n).2 = n.tried host (named.map Prod.fst) := by
  induction named generalizing n with
  | nil => exact ⟨by simp [probe], .slnil, rfl⟩
  | cons x named ih =>
    obtain ⟨port, file⟩ := x
    obtain ⟨haccept, hnetwork⟩ := n.connect_spec host port
    obtain ⟨hmem, hsub, hrest⟩ := ih (n.connect host port).2
    rw [hnetwork] at hmem hsub hrest
    have hsame : ∀ p, Network.Accepts { n with connections := (host, port) :: n.connections } p ↔
        n.Accepts p := fun _ => Iff.rfl
    simp only [hsame] at hmem
    simp only [probe, hnetwork]
    cases hc : (n.connect host port).1 with
    | none =>
      have hport := haccept.1 hc
      simp only [Option.isSome_none, Bool.false_eq_true, if_false, List.map_cons]
      refine ⟨fun s => ?_, hsub.cons_cons port, ?_⟩
      · rw [List.mem_cons, hmem, List.exists_mem_cons_iff]
        simp [hport]
      · rw [hrest, Network.tried_cons]
    | some reason =>
      have hport : ¬ n.Accepts port := fun h => by simp [haccept.2 h] at hc
      simp only [Option.isSome_some, if_true, List.map_cons]
      refine ⟨fun s => ?_, hsub.cons port, ?_⟩
      · rw [hmem, List.exists_mem_cons_iff]
        simp [hport]
      · rw [hrest, Network.tried_cons]

/-! ## Finding servers -/

/-- The folder that is looked in: the one that is given, or the working folder. -/
inductive FolderFor (w : Workspace) : Value → Path → Prop
  | here {folder : Value} (h : folder.truthy = false) : FolderFor w folder w.here
  | given {folder : String} (h : folder.isEmpty = false) :
    FolderFor w (.text folder) (.ofText folder)

/-- The host that is tried: the one that is given, or that of the settings, which may have to be
    read. -/
inductive HostFor (w : Workspace) : Value → Value → Workspace → Prop
  | given {host : Value} (h : host.truthy = true) : HostFor w host host w
  | default {host : Value} (h : host.truthy = false) {settings : Settings} {w' : Workspace}
    (hsettings : Settings.current.perform w = (.ok settings, w')) :
    HostFor w host (.text settings.host) w'

/-- The servers that are found on a host: every port that a file names and that accepts, with the
    first file that names it, in the order of these files. -/
structure FindsServers (t : FileTree) (root : Path) (n : Network) (host : Value)
    (found : List FoundServer) : Prop where
  mem_iff : ∀ s, s ∈ found ↔ s.host = host ∧ n.Accepts s.port ∧
    ∃ i names, portFiles[i]? = some names ∧ s.portFile = (root.join names).text ∧
      FirstNames t root portFiles i s.port
  once : (found.map FoundServer.port).Nodup
  ordered : found.Pairwise fun a b => ∀ i j, FirstNames t root portFiles i a.port →
    FirstNames t root portFiles j b.port → i < j

section

variable {w w₁ : Workspace} {folder host behind : Value} {root : Path}

theorem findsServers_probe (t : FileTree) (root : Path) (host : Value) (n : Network) :
    FindsServers t root n host (probe host (namedPorts t root [] portFiles) n).1 := by
  obtain ⟨hmem, hsub, -⟩ := probe_spec host (namedPorts t root [] portFiles) n
  refine ⟨fun s => ?_, hsub.nodup nodup_namedPorts, ?_⟩
  · rw [hmem]
    constructor
    · rintro ⟨⟨port, file⟩, hx, haccept, rfl⟩
      obtain ⟨-, i, names, hn, rfl, hfirst⟩ := mem_namedPorts_iff.1 hx
      exact ⟨rfl, haccept, i, names, hn, rfl, hfirst⟩
    · rintro ⟨hhost, haccept, i, names, hn, hfile, hfirst⟩
      refine ⟨(s.port, root.join names),
        mem_namedPorts_iff.2 ⟨by simp, i, names, hn, rfl, hfirst⟩, haccept, ?_⟩
      cases s
      simp_all
  · have hports : ((namedPorts t root [] portFiles).map Prod.fst).Pairwise fun p q =>
        ∀ i j, FirstNames t root portFiles i p → FirstNames t root portFiles j q → i < j :=
      List.pairwise_map.2 pairwise_namedPorts
    exact List.pairwise_map.1 (hports.sublist hsub)

/-- Choosing the host changes no more than the settings. -/
theorem HostFor.exists_settings (h : HostFor w host behind w₁) :
    ∃ s, w₁ = { w with settings := s } := by
  cases h with
  | given => exact ⟨w.settings, rfl⟩
  | default _ hsettings =>
    obtain ⟨s, hs⟩ := Settings.current_meets w
    rw [hsettings] at hs
    exact ⟨s, hs⟩

/-- The ports that are named are tried at the host, in the folder. -/
theorem perform_discoverServers (hroot : FolderFor w folder root) (hhost : HostFor w host behind w₁)
    (h : w.tree.isFolder root = true) :
    let probed := probe behind (namedPorts w.tree root [] portFiles) w.network
    (discoverServers folder host).Meets w fun r w' =>
      r = .ok (.ok probed.1) ∧ w' = { w₁ with network := probed.2 } := by
  intro probed
  unfold discoverServers
  refine Meets.get_bind (Meets.ite_bind (Q := fun r w' => r = .ok root ∧ w' = w) ?_ ?_ ?_ ?_)
  · intro hf
    cases hroot with
    | here hno => simp [hno] at hf
    | given => exact ⟨rfl, rfl⟩
  · intro hf
    cases hroot with
    | here => exact ⟨rfl, rfl⟩
    | given hyes => simp [Value.truthy, hyes] at hf
  · rintro _ w ⟨⟨⟩, rfl⟩
    refine Meets.ite_bind (Q := fun r w' => r = .ok behind ∧ w' = w₁) ?_ ?_ ?_ ?_
    · intro hh
      cases hhost with
      | given => exact ⟨rfl, rfl⟩
      | default hno => simp [hno] at hh
    · intro hh
      cases hhost with
      | given hyes => exact absurd hyes hh
      | default _ hsettings =>
        refine Meets.bind (Q := fun r w' => (r, w') = Settings.current.perform w) rfl ?_ ?_
        · intro settings w' hs
          rw [hsettings] at hs
          cases hs
          exact ⟨rfl, rfl⟩
        · intro e w' hs
          rw [hsettings] at hs
          cases hs
    · rintro _ _ ⟨⟨⟩, rfl⟩
      obtain ⟨s, rfl⟩ := hhost.exists_settings
      refine Meets.get_bind ?_
      dsimp only
      rw [if_neg (by simp [h])]
      exact ⟨rfl, rfl⟩
    · rintro e w' ⟨⟨⟩, -⟩
  · rintro e w' ⟨⟨⟩, -⟩

end

end FormEdit
