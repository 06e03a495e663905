import FormEdit.Proofs.Settings.Item
import FormEdit.Proofs.Text.Utf8
import FormEdit.Proofs.Workspace.Keep
import FormEdit.Proofs.Workspace.Tree
import Mathlib.Data.List.Forall2

set_option autoImplicit false

/-! # The layers that settings come from

A setting comes from its variable, else from the first settings file that is there, else it is its
default: what lies behind the layer that has it is not looked at. Reading all settings gives those
of which this holds, or the fault that the placeholder is empty (`Settings.load_by_layers`). It
fails in another way exactly if one of them cannot be read: the home folder is not known, the file
holds a decimal number that is too long, what should be a whole number is infinite, or what should
be text holds a number that is too long to be printed. -/

namespace FormEdit

namespace Settings

open FormEdit.Action FormEdit.Toml

/-! ## The layers -/

/-- What a settings file may read as: its table if there is one, or the fault that a number in it is
    too long. -/
abbrev FileReading := Except Numeral.Fault (Option Table)

variable {w : Workspace} {home : Path} {r : FileReading}

/-- Where a setting is read from: the name of its variable, the names in its key, and its
    default. -/
structure Source (α : Type) where
  name : String
  path : List String
  default : α

def numberSources : List (Source Int) :=
  [⟨"BASIC_TOOLS_READ_LIMIT", ["files", "read_limit"], 2000⟩,
   ⟨"BASIC_TOOLS_GLOB_MAX_RESULTS", ["files", "glob_max_results"], 1000⟩,
   ⟨"BASIC_TOOLS_GREP_MAX_RESULTS", ["files", "grep_max_results"], 100⟩,
   ⟨"BASIC_TOOLS_NREPL_TIMEOUT_MS", ["nrepl", "timeout_ms"], 120000⟩,
   ⟨"BASIC_TOOLS_FORMATTER_TIMEOUT", ["formatter", "timeout_s"], 30⟩]

def textSources (home : Path) : List (Source String) :=
  [⟨"BASIC_TOOLS_NREPL_HOST", ["nrepl", "host"], "localhost"⟩,
   ⟨"BASIC_TOOLS_LOG_DIR", ["logging", "dir"], (home.join [".basic-tools-mcp", "logs"]).text⟩,
   ⟨"BASIC_TOOLS_PLACEHOLDER", ["structural", "placeholder"], "%s"⟩]

def numbers (s : Settings) : List Int :=
  [s.readLimit, s.globLimit, s.grepLimit, s.evalTimeout, s.formatTimeout]

def texts (s : Settings) : List String := [s.host, s.logFolder, s.placeholder]

/-- What the first settings file that is there reads as, if it is well-formed text. The files behind
    it count for nothing. -/
inductive FileReads (w : Workspace) (home : Path) : FileReading → Prop
  | missing (h : ∀ p ∈ candidates w home, w.tree.find? p = none) : FileReads w home (.ok none)
  | found {before behind : List Path} {p : Path} {content : List UInt8} {t : List Char}
    (hc : candidates w home = before ++ p :: behind) (hb : ∀ q ∈ before, w.tree.find? q = none)
    (hp : w.tree.content? p = some content) (ht : Utf8.decode content = .ok t)
    (hr : Toml.read t ≠ .error .malformed) : FileReads w home ((Toml.read t).map some)

theorem FileReads.of_read (before : List Path) {behind : List Path} {p : Path} {t : List Char}
    {entries : Table} (hc : candidates w home = before ++ p :: behind)
    (hb : ∀ q ∈ before, w.tree.find? q = none) (hp : w.tree.content? p = some (Utf8.encode t))
    (hread : Toml.read t = .ok entries) : FileReads w home (.ok (some entries)) := by
  have hr : (Toml.read t).map some = .ok (some entries) := by rw [hread]; rfl
  exact hr ▸ .found hc hb hp (Utf8.decode_encode t) (by rw [hread]; nofun)

/-- Text that is well-formed, and of which the table is as some test says. -/
theorem exists_read {t : List Char} {P : Table → Prop} [DecidablePred P]
    (h : (Toml.read t).toOption.any (fun entries => decide (P entries)) = true) :
    ∃ entries, Toml.read t = .ok entries ∧ P entries := by
  cases hread : Toml.read t with
  | ok entries => exact ⟨entries, rfl, by simpa [hread, Except.toOption] using h⟩
  | error e => simp [hread, Except.toOption] at h

/-- What is chosen for a setting, when the settings file reads as `r`. -/
inductive Chosen {α : Type} (w : Workspace) (r : FileReading) (source : Source α)
    (default : Item) : Item → Prop
  | given {s : String} (h : w.environment? source.name = some s) :
    Chosen w r source default (.text s)
  | file {entries : Table} {i : Item} (h : w.environment? source.name = none)
    (hr : r = .ok (some entries)) (hi : Item.LeadsTo source.path (.table entries) i) :
    Chosen w r source default i
  | default {table : Option Table} (h : w.environment? source.name = none) (hr : r = .ok table)
    (hi : ∀ entries ∈ table, ∀ i, ¬ Item.LeadsTo source.path (.table entries) i) :
    Chosen w r source default default

/-- The number that an item makes a setting. What stands for no number, infinity aside, makes it the
    default. -/
inductive NumberOf (default : Int) : Item → Int → Prop
  | whole {i : Item} {n : Int} (h : i.whole = .ok n) : NumberOf default i n
  | none {i : Item} {e : WholeError} (h : i.whole = .error e) (hi : ¬ i.IsInfinite) :
    NumberOf default i default

def GivesNumber (w : Workspace) (r : FileReading) (source : Source Int) (n : Int) : Prop :=
  ∃ i, Chosen w r source (.int source.default) i ∧ NumberOf source.default i n

def GivesText (w : Workspace) (r : FileReading) (source : Source String) (s : String) : Prop :=
  ∃ i, Chosen w r source (.text source.default) i ∧ i.display? = some s

/-- Whether each of the settings comes from the first layer that has it. -/
structure Layered (w : Workspace) (home : Path) (r : FileReading) (s : Settings) : Prop where
  numbers : List.Forall₂ (GivesNumber w r) numberSources s.numbers
  texts : List.Forall₂ (GivesText w r) (textSources home) s.texts

/-- Whether a setting cannot be read: it has no variable, and the file holds a decimal number that
    is too long, or under its key an item that is bad for it. -/
inductive Unreadable {α : Type} (w : Workspace) (r : FileReading) (bad : Item → Prop)
    (source : Source α) : Prop
  | file {n : Nat} (h : w.environment? source.name = none) (hr : r = .error (.tooLong n))
  | item {entries : Table} {i : Item} (h : w.environment? source.name = none)
    (hr : r = .ok (some entries)) (hi : Item.LeadsTo source.path (.table entries) i) (hb : bad i)

/-- Whether one of the settings cannot be read. -/
def SomeUnreadable (w : Workspace) (home : Path) (r : FileReading) : Prop :=
  (∃ source ∈ numberSources, Unreadable w r Item.IsInfinite source) ∨
    ∃ source ∈ textSources home, Unreadable w r Item.HoldsLong source

/-! ## One way to choose -/

section Chosen

variable {α : Type} {source : Source α} {default i j : Item} {bad : Item → Prop}

theorem Chosen.of_at? {entries : Table} (h : w.environment? source.name = none)
    (hi : Item.at? source.path (.table entries) = none) :
    Chosen w (.ok (some entries)) source default default := by
  refine .default h rfl ?_
  rintro _ ⟨⟩ i hlead
  rw [Item.leadsTo_iff, hi] at hlead
  cases hlead

theorem Chosen.unique (hi : Chosen w r source default i) (hj : Chosen w r source default j) :
    i = j := by
  cases hi with
  | given h =>
    cases hj with
    | given h' => rw [h] at h'; cases h'; rfl
    | file h' => rw [h] at h'; cases h'
    | default h' => rw [h] at h'; cases h'
  | file h hr hi =>
    cases hj with
    | given h' => rw [h] at h'; cases h'
    | file _ hr' hi' =>
      rw [hr] at hr'
      cases hr'
      exact Option.some.inj ((Item.leadsTo_iff.1 hi).symm.trans (Item.leadsTo_iff.1 hi'))
    | default _ hr' hnot =>
      rw [hr] at hr'
      cases hr'
      exact absurd hi (hnot _ rfl _)
  | default h hr hnot =>
    cases hj with
    | given h' => rw [h] at h'; cases h'
    | file _ hr' hi' =>
      rw [hr] at hr'
      cases hr'
      exact absurd hi' (hnot _ rfl _)
    | default => rfl

/-- What is chosen for a setting that cannot be read is bad for it. -/
theorem Chosen.bad_of_unreadable (hi : Chosen w r source default i)
    (hu : Unreadable w r bad source) : bad i := by
  cases hu with
  | file h hr =>
    cases hi with
    | given h' => rw [h] at h'; cases h'
    | file _ hr' => rw [hr] at hr'; cases hr'
    | default _ hr' => rw [hr] at hr'; cases hr'
  | item h hr hj hb => exact hi.unique (.file h hr hj) ▸ hb

/-- Something bad is in the file, since neither text nor the default is bad. -/
theorem Chosen.unreadable_of_bad (hi : Chosen w r source default i) (hb : bad i)
    (htext : ∀ s, ¬ bad (.text s)) (hdefault : ¬ bad default) : Unreadable w r bad source := by
  cases hi with
  | given => exact absurd hb (htext _)
  | file h hr hi => exact .item h hr hi hb
  | default => exact absurd hb hdefault

end Chosen

theorem GivesNumber.unique {source : Source Int} {n m : Int} (hn : GivesNumber w r source n)
    (hm : GivesNumber w r source m) : n = m := by
  obtain ⟨i, hi, hn⟩ := hn
  obtain ⟨j, hj, hm⟩ := hm
  obtain rfl := hi.unique hj
  cases hn with
  | whole h =>
    cases hm with
    | whole h' => rw [h] at h'; cases h'; rfl
    | none h' => rw [h] at h'; cases h'
  | none h =>
    cases hm with
    | whole h' => rw [h] at h'; cases h'
    | none => rfl

theorem GivesNumber.not_unreadable {source : Source Int} {n : Int} (h : GivesNumber w r source n) :
    ¬ Unreadable w r Item.IsInfinite source := by
  obtain ⟨i, hi, hn⟩ := h
  intro hu
  have hinf := hi.bad_of_unreadable hu
  cases hn with
  | whole h => rw [Item.whole_eq_infinite_iff.2 hinf] at h; cases h
  | none _ hi => exact hi hinf

theorem GivesText.unique {source : Source String} {s t : String} (hs : GivesText w r source s)
    (ht : GivesText w r source t) : s = t := by
  obtain ⟨i, hi, hs⟩ := hs
  obtain ⟨j, hj, ht⟩ := ht
  obtain rfl := hi.unique hj
  exact Option.some.inj (hs.symm.trans ht)

theorem GivesText.not_unreadable {source : Source String} {s : String}
    (h : GivesText w r source s) : ¬ Unreadable w r Item.HoldsLong source := by
  obtain ⟨i, hi, hs⟩ := h
  intro hu
  rw [Item.display?_eq_none_iff.2 (hi.bad_of_unreadable hu)] at hs
  cases hs

theorem Layered.unique {s t : Settings} (hs : Layered w home r s) (ht : Layered w home r t) :
    s = t := by
  have hnumber : Relator.RightUnique (GivesNumber w r) := fun _ _ _ => GivesNumber.unique
  have htext : Relator.RightUnique (GivesText w r) := fun _ _ _ => GivesText.unique
  have hnumbers : s.numbers = t.numbers := hnumber.forall₂ hs.numbers ht.numbers
  have htexts : s.texts = t.texts := htext.forall₂ hs.texts ht.texts
  cases s
  cases t
  simp only [Settings.numbers, Settings.texts, List.cons.injEq, and_true] at hnumbers htexts
  simp [hnumbers, htexts]

theorem exists_of_forall₂ {α β : Type} {R : α → β → Prop} {as : List α} {bs : List β} {a : α}
    (h : List.Forall₂ R as bs) (ha : a ∈ as) : ∃ b, R a b := by
  induction h with
  | nil => cases ha
  | cons hab _ ih =>
    cases ha with
    | head => exact ⟨_, hab⟩
    | tail _ ha => exact ih ha

theorem Layered.not_unreadable {s : Settings} (h : Layered w home r s) :
    ¬ SomeUnreadable w home r := by
  rintro (⟨source, hsource, hu⟩ | ⟨source, hsource, hu⟩)
  · obtain ⟨n, hn⟩ := exists_of_forall₂ h.numbers hsource
    exact hn.not_unreadable hu
  · obtain ⟨t, ht⟩ := exists_of_forall₂ h.texts hsource
    exact ht.not_unreadable hu

/-! ## Reading -/

/-- Whether an action changes nothing, and gives what `gives` says or fails as `fails` says. -/
def Reads {α : Type} (x : Action α) (w : Workspace) (gives : α → Prop) (fails : Failure → Prop) :
    Prop :=
  x.Meets w fun out w' => w' = w ∧
    match out with
    | .ok a => gives a
    | .error e => fails e

theorem Reads.bind {α β : Type} {x : Action α} {gives : α → Prop} {fails : Failure → Prop}
    {f : α → Action β} {P : Except Failure β → Workspace → Prop} (hx : Reads x w gives fails)
    (hf : ∀ a, gives a → (f a).Meets w P) (he : ∀ e, fails e → P (.error e) w) :
    Meets (x >>= f) w P := by
  refine Meets.bind hx ?_ ?_
  · rintro a w' ⟨rfl, ha⟩
    exact hf a ha
  · rintro e w' ⟨rfl, hfails⟩
    exact he e hfails

/-- Steps that fail in the same way. -/
theorem Reads.andThen {α β : Type} {x : Action α} {gives : α → Prop} {gives' : β → Prop}
    {fails : Failure → Prop} {f : α → Action β} (hx : Reads x w gives fails)
    (hf : ∀ a, gives a → Reads (f a) w gives' fails) : Reads (x >>= f) w gives' fails :=
  hx.bind hf fun _ he => ⟨rfl, he⟩

/-- What gives nothing skips what is behind it. -/
theorem Reads.andThen_skipped {α β : Type} {x : Action α} {gives : β → Prop}
    {fails : Failure → Prop} {f : α → Action β} (hx : Reads x w (fun _ => False) fails) :
    Reads (x >>= f) w gives fails :=
  hx.andThen fun _ h => h.elim

/-- A failure for some other reason than that the settings are at fault. -/
def Otherwise (reason : Prop) (e : Failure) : Prop := reason ∧ ∀ m, e ≠ .settings m

section

variable (hhome : w.home? = some home) (hr : FileReads w home r)
include hhome

theorem homeFolder_reads : Reads homeFolder w (· = home) fun _ => False := by
  unfold homeFolder
  refine Meets.get_bind ?_
  rw [hhome]
  exact ⟨rfl, rfl⟩

include hr

theorem file_reads :
    Reads file w (fun table => r = .ok table) (Otherwise (∃ n, r = .error (.tooLong n))) := by
  refine (homeFolder_reads hhome).bind ?_ nofun
  rintro home rfl
  refine Meets.get_bind ?_
  cases hr with
  | missing h =>
    have hnone : ((candidates w home).find? fun p => (w.tree.find? p).isSome) = none :=
      List.find?_eq_none.2 fun p hp => by simp [h p hp]
    rw [hnone]
    exact ⟨rfl, rfl⟩
  | @found before behind p content t hc hb hp ht hvalid =>
    have hbefore : (before.find? fun q => (w.tree.find? q).isSome) = none :=
      List.find?_eq_none.2 fun q hq => by simp [hb q hq]
    have hfirst : ((candidates w home).find? fun q => (w.tree.find? q).isSome) = some p := by
      rw [hc, List.find?_append, hbefore, Option.none_or]
      exact List.find?_cons_of_pos (by rw [FileTree.find?_of_content? hp]; rfl)
    simp only [hfirst, hp, readFile, ht]
    cases hread : Toml.read t with
    | ok entries => exact ⟨rfl, rfl⟩
    | error fault =>
      cases fault with
      | malformed => exact absurd hread hvalid
      | tooLong n => exact ⟨rfl, ⟨n, rfl⟩, nofun⟩

theorem fileItem?_reads {key : String} {path : List String} (hkey : keyNames key = path) :
    Reads (fileItem? key) w
      (fun found => ∃ table, r = .ok table ∧ ∀ i,
        found = some i ↔ ∃ entries, table = some entries ∧ Item.LeadsTo path (.table entries) i)
      (Otherwise (∃ n, r = .error (.tooLong n))) := by
  refine (file_reads hhome hr).andThen ?_
  intro table htable
  refine ⟨rfl, table, htable, fun i => ?_⟩
  rw [hkey, Option.bind_eq_some_iff]
  exact exists_congr fun entries => and_congr_right fun _ => Item.leadsTo_iff.symm

/-- The item chosen comes from the first layer that has one. -/
theorem chosen_reads {α : Type} (source : Source α) {key : String}
    (hkey : keyNames key = source.path) (default : Item) :
    Reads (chosen source.name key default) w (Chosen w r source default)
      (Otherwise (w.environment? source.name = none ∧ ∃ n, r = .error (.tooLong n))) := by
  refine Meets.get_bind ?_
  cases h : w.environment? source.name with
  | some s => exact ⟨rfl, .given h⟩
  | none =>
    refine (fileItem?_reads hhome hr hkey).bind ?_ fun e he => ⟨rfl, ⟨rfl, he.1⟩, he.2⟩
    rintro found ⟨table, htable, hfound⟩
    refine ⟨rfl, ?_⟩
    cases found with
    | some i =>
      obtain ⟨entries, rfl, hi⟩ := (hfound i).1 rfl
      exact .file h htable hi
    | none =>
      refine .default h htable fun entries hentries i hi => ?_
      exact absurd ((hfound i).2 ⟨entries, hentries, hi⟩) nofun

theorem number_reads {name key : String} {path : List String} {default : Int}
    (hkey : keyNames key = path) :
    Reads (number name key default) w (GivesNumber w r ⟨name, path, default⟩)
      (Otherwise (Unreadable w r Item.IsInfinite (⟨name, path, default⟩ : Source Int))) := by
  refine (chosen_reads hhome hr ⟨name, path, default⟩ hkey _).bind ?_ ?_
  · intro i hi
    cases hwhole : i.whole with
    | ok n => exact ⟨rfl, i, hi, .whole hwhole⟩
    | error e =>
      by_cases he : e = .infinite
      · subst he
        have hinf := Item.whole_eq_infinite_iff.1 hwhole
        have hu := hi.unreadable_of_bad hinf Item.not_isInfinite_text Item.not_isInfinite_int
        exact ⟨rfl, hu, nofun⟩
      · have hinf : ¬ i.IsInfinite := fun hinf => by
          rw [Item.whole_eq_infinite_iff.2 hinf] at hwhole
          exact he (Except.error.inj hwhole).symm
        cases e with
        | infinite => exact absurd rfl he
        | _ => exact ⟨rfl, i, hi, .none hwhole hinf⟩
  · rintro e ⟨⟨h, n, hn⟩, hno⟩
    exact ⟨rfl, .file h hn, hno⟩

/-- A number that is infinite in the file cannot be read. -/
theorem number_of_infinite {name key : String} {path : List String} {default : Int}
    {entries : Table} {i : Item} (hkey : keyNames key = path) (h : w.environment? name = none)
    (hentries : r = .ok (some entries)) (hi : Item.LeadsTo path (.table entries) i)
    (hinf : i.IsInfinite) :
    (number name key default).perform w = (.error (.overflow WholeError.infinite.message), w) := by
  have hnumber : (number name key default).Meets w fun out w' =>
      out = .error (.overflow WholeError.infinite.message) ∧ w' = w := by
    refine (chosen_reads hhome hr ⟨name, path, default⟩ hkey _).bind ?_ ?_
    · intro j hj
      obtain rfl := hj.unique (.file h hentries hi)
      rw [Item.whole_eq_infinite_iff.2 hinf]
      exact ⟨rfl, rfl⟩
    · rintro e ⟨⟨-, n, hn⟩, -⟩
      rw [hentries] at hn
      cases hn
  exact Prod.ext hnumber.1 hnumber.2

theorem text_reads {name key : String} {path : List String} {default : String}
    (hkey : keyNames key = path) :
    Reads (text name key default) w (GivesText w r ⟨name, path, default⟩)
      (Otherwise (Unreadable w r Item.HoldsLong (⟨name, path, default⟩ : Source String))) := by
  refine (chosen_reads hhome hr ⟨name, path, default⟩ hkey _).bind ?_ ?_
  · intro i hi
    cases hdisplay : i.display? with
    | some s => exact ⟨rfl, i, hi, hdisplay⟩
    | none =>
      have hlong := Item.display?_eq_none_iff.1 hdisplay
      have hu := hi.unreadable_of_bad hlong Item.not_holdsLong_text (Item.not_holdsLong_text _)
      exact ⟨rfl, hu, nofun⟩
  · rintro e ⟨⟨h, n, hn⟩, hno⟩
    exact ⟨rfl, .file h hn, hno⟩

end

/-! ## All settings -/

/-- What reading all settings may come to. -/
inductive Outcome (w : Workspace) (home : Path) (r : FileReading) : Except Failure Settings → Prop
  | ok {s : Settings} (h : Layered w home r s) (hp : s.placeholder ≠ "") : Outcome w home r (.ok s)
  | empty {s : Settings} (h : Layered w home r s) (hp : s.placeholder = "") :
    Outcome w home r (.error emptyPlaceholder)
  | unreadable {e : Failure} (h : Otherwise (SomeUnreadable w home r) e) :
    Outcome w home r (.error e)

section

variable (hhome : w.home? = some home) (hr : FileReads w home r) {name key : String}
  {path : List String}
include hhome hr

/-- Reading goes on behind a number, or ends there. -/
theorem number_bind (k : Nat) {default : Int} {f : Int → Action Settings}
    (hsource : numberSources[k]? = some ⟨name, path, default⟩) (hkey : keyNames key = path)
    (hf : ∀ n, GivesNumber w r ⟨name, path, default⟩ n →
      (f n).Meets w fun out w' => Outcome w home r out ∧ w' = w) :
    Meets (number name key default >>= f) w fun out w' => Outcome w home r out ∧ w' = w := by
  refine (number_reads hhome hr hkey).bind hf ?_
  rintro e ⟨hu, hno⟩
  exact ⟨.unreadable ⟨.inl ⟨_, List.mem_of_getElem? hsource, hu⟩, hno⟩, rfl⟩

/-- Reading goes on behind a text, or ends there. -/
theorem text_bind (k : Nat) {default : String} {f : String → Action Settings}
    (hsource : (textSources home)[k]? = some ⟨name, path, default⟩) (hkey : keyNames key = path)
    (hf : ∀ s, GivesText w r ⟨name, path, default⟩ s →
      (f s).Meets w fun out w' => Outcome w home r out ∧ w' = w) :
    Meets (text name key default >>= f) w fun out w' => Outcome w home r out ∧ w' = w := by
  refine (text_reads hhome hr hkey).bind hf ?_
  rintro e ⟨hu, hno⟩
  exact ⟨.unreadable ⟨.inr ⟨_, List.mem_of_getElem? hsource, hu⟩, hno⟩, rfl⟩

theorem load_meets : load.Meets w fun out w' => Outcome w home r out ∧ w' = w := by
  unfold load
  refine number_bind hhome hr 0 rfl (by decide +kernel) fun readLimit hreadLimit => ?_
  refine number_bind hhome hr 1 rfl (by decide +kernel) fun globLimit hglobLimit => ?_
  refine number_bind hhome hr 2 rfl (by decide +kernel) fun grepLimit hgrepLimit => ?_
  refine text_bind hhome hr 0 rfl (by decide +kernel) fun host hhost => ?_
  refine number_bind hhome hr 3 rfl (by decide +kernel) fun evalTimeout hevalTimeout => ?_
  refine number_bind hhome hr 4 rfl (by decide +kernel) fun formatTimeout hformatTimeout => ?_
  unfold readLogFolder
  rw [bind_assoc]
  refine (homeFolder_reads hhome).bind ?_ nofun
  rintro home rfl
  refine text_bind hhome hr 1 rfl (by decide +kernel) fun logFolder hlogFolder => ?_
  refine text_bind hhome hr 2 rfl (by decide +kernel) fun placeholder hplaceholder => ?_
  have h : Layered w home r ⟨readLimit, globLimit, grepLimit, host, evalTimeout, formatTimeout,
      logFolder, placeholder⟩ :=
    ⟨.cons hreadLimit (.cons hglobLimit (.cons hgrepLimit (.cons hevalTimeout
      (.cons hformatTimeout .nil)))), .cons hhost (.cons hlogFolder (.cons hplaceholder .nil))⟩
  by_cases hp : placeholder.isEmpty
  · rw [if_pos hp]
    exact ⟨.empty h (String.isEmpty_iff.1 hp), rfl⟩
  · rw [if_neg hp]
    exact ⟨.ok h fun h' => hp (String.isEmpty_iff.2 h'), rfl⟩

end

namespace Outcome

variable {out : Except Failure Settings} (hout : Outcome w home r out)
include hout

theorem eq_ok_iff {s : Settings} : out = .ok s ↔ Layered w home r s ∧ s.placeholder ≠ "" := by
  constructor
  · rintro rfl
    cases hout with
    | ok h hp => exact ⟨h, hp⟩
  · rintro ⟨hs, hp⟩
    cases hout with
    | ok h => rw [h.unique hs]
    | empty h hp' => exact absurd (h.unique hs ▸ hp') hp
    | unreadable h => exact absurd h.1 hs.not_unreadable

theorem eq_settings_iff {m : String} :
    out = .error (.settings m) ↔ m = "Template placeholder must be a non-empty string" ∧
      ∃ s, Layered w home r s ∧ s.placeholder = "" := by
  constructor
  · rintro rfl
    cases hout with
    | empty h hp => exact ⟨rfl, _, h, hp⟩
    | unreadable h => exact absurd rfl (h.2 m)
  · rintro ⟨rfl, s, hs, hp⟩
    cases hout with
    | ok h hp' => exact absurd hp (h.unique hs ▸ hp')
    | empty => rfl
    | unreadable h => exact absurd h.1 hs.not_unreadable

theorem eq_other_iff :
    (∃ e, out = .error e ∧ ∀ m, e ≠ .settings m) ↔ SomeUnreadable w home r := by
  constructor
  · rintro ⟨e, rfl, he⟩
    cases hout with
    | empty => exact absurd rfl (he _)
    | unreadable h => exact h.1
  · intro hu
    cases hout with
    | ok h => exact absurd hu h.not_unreadable
    | empty h => exact absurd hu h.not_unreadable
    | unreadable h => exact ⟨_, rfl, h.2⟩

end Outcome

/-! ## Without a home folder -/

section

variable (hhome : w.home? = none)
include hhome

theorem homeFolder_of_no_home : Reads homeFolder w (fun _ => False) (· = .noHome) := by
  unfold homeFolder
  refine Meets.get_bind ?_
  rw [hhome]
  exact ⟨rfl, rfl⟩

/-- What is chosen is the text of a variable then. -/
theorem chosen_of_no_home (name key : String) (default : Item) :
    Reads (chosen name key default) w (fun i => ∃ s, i = .text s) (· = .noHome) := by
  refine Meets.get_bind ?_
  cases w.environment? name with
  | some s => exact ⟨rfl, s, rfl⟩
  | none => exact (homeFolder_of_no_home hhome).andThen_skipped.andThen_skipped.andThen_skipped

theorem number_of_no_home (name key : String) (default : Int) :
    Reads (number name key default) w (fun _ => True) (· = .noHome) := by
  refine (chosen_of_no_home hhome _ _ _).andThen ?_
  rintro _ ⟨s, rfl⟩
  cases hwhole : (Item.text s).whole with
  | ok n => exact ⟨rfl, trivial⟩
  | error e =>
    cases e with
    | infinite => exact absurd (Item.whole_eq_infinite_iff.1 hwhole) (Item.not_isInfinite_text s)
    | _ => exact ⟨rfl, trivial⟩

theorem text_of_no_home (name key default : String) :
    Reads (text name key default) w (fun _ => True) (· = .noHome) := by
  refine (chosen_of_no_home hhome _ _ _).andThen ?_
  rintro _ ⟨s, rfl⟩
  exact ⟨rfl, trivial⟩

/-- The log folder has no default then. -/
theorem load_of_no_home : load.perform w = (.error .noHome, w) := by
  have hload : Reads load w (fun _ => False) (· = .noHome) := by
    refine (number_of_no_home hhome _ _ _).andThen fun readLimit _ => ?_
    refine (number_of_no_home hhome _ _ _).andThen fun globLimit _ => ?_
    refine (number_of_no_home hhome _ _ _).andThen fun grepLimit _ => ?_
    refine (text_of_no_home hhome _ _ _).andThen fun host _ => ?_
    refine (number_of_no_home hhome _ _ _).andThen fun evalTimeout _ => ?_
    refine (number_of_no_home hhome _ _ _).andThen fun formatTimeout _ => ?_
    have hlog : Reads readLogFolder w (fun _ => False) (· = .noHome) :=
      (homeFolder_of_no_home hhome).andThen_skipped
    exact hlog.andThen_skipped
  unfold Reads Meets at hload
  generalize load.perform w = p at hload ⊢
  obtain ⟨out, w'⟩ := p
  obtain ⟨rfl, hout⟩ := hload
  cases out with
  | ok s => exact hout.elim
  | error e => exact congrArg (Except.error ·, w') hout

end

end Settings

end FormEdit
