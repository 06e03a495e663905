import FormEdit.Workspace.Tree

set_option autoImplicit false

/-! # Writing over a file

A path that leads to a file goes through folders only, and none of them is the file. So writing the
file makes no folders on the way, changes what is at one place, and the path leads to that place as
before (`FileTree.write_existing`). -/

namespace FormEdit.FileTree

variable {t : FileTree} {p : Path} {place l : Location} {old : List UInt8}

/-! ## One entry -/

/-- What a list of entries has at a place once another place got a new entry. -/
theorem find?_overwrite_ne (es : List (Location × Entry)) (entry : Entry) (h : l ≠ place) :
    (es.map fun e => if e.1 == place then (place, entry) else e).find? (fun e => e.1 == l) =
      es.find? fun e => e.1 == l := by
  induction es with
  | nil => rfl
  | cons e es ih =>
    rw [List.map_cons, List.find?_cons, List.find?_cons, ih]
    by_cases he : e.1 = place
    · have hnew : (place == l) = false := by simpa using Ne.symm h
      have hold : (e.1 == l) = false := by simpa [he] using Ne.symm h
      simp only [he, beq_self_eq_true, if_true, hnew]
    · have hkeep : (e.1 == place) = false := by simpa using he
      simp only [hkeep, Bool.false_eq_true, if_false]

theorem find?_overwrite_self {es : List (Location × Entry)} (entry : Entry)
    (h : es.any (fun e => e.1 == place) = true) :
    (es.map fun e => if e.1 == place then (place, entry) else e).find? (fun e => e.1 == place) =
      some (place, entry) := by
  induction es with
  | nil => cases h
  | cons e es ih =>
    rw [List.map_cons, List.find?_cons]
    by_cases he : (e.1 == place) = true
    · simp only [he, if_true, beq_self_eq_true]
    · rw [List.any_cons, Bool.or_eq_true] at h
      simp only [he, Bool.false_eq_true, if_false, ih (h.resolve_left he)]

/-- An entry is at its place, and all else is as it was. The working folder is no place for one. -/
theorem entry?_put (h : place ≠ []) (entry : Entry) (l : Location) :
    entry? (t.put place entry) l = if l = place then some entry else t.entry? l := by
  cases l with
  | nil => rw [if_neg (Ne.symm h)]; rfl
  | cons name l =>
    show ((t.put place entry).entries.find? fun e => e.1 == name :: l).map Prod.snd = _
    unfold put
    split
    · next hany =>
      by_cases hl : name :: l = place
      · subst hl
        rw [if_pos rfl, find?_overwrite_self entry hany]
        rfl
      · rw [if_neg hl, find?_overwrite_ne _ _ hl]
        rfl
    · next hany =>
      have hnone : (t.entries.find? fun e => e.1 == place) = none := by
        refine List.find?_eq_none.2 fun e he hplace => hany ?_
        exact List.any_eq_true.2 ⟨e, he, hplace⟩
      rw [List.find?_append]
      by_cases hl : name :: l = place
      · subst hl
        rw [if_pos rfl, hnone]
        simp
      · have hne : (place == name :: l) = false := by simpa using Ne.symm hl
        rw [if_neg hl, List.find?_cons, hne, List.find?_nil, Option.or_none]
        rfl

/-! ## The way to a file -/

/-- The place that a name leads to from a place, unless it leads out of the tree. -/
def next? (l : Location) (name : String) : Option Location :=
  if name = ".." then if l = [] then none else some l.dropLast else some (l ++ [name])

/-- A path into the tree goes from a folder to the next place, and from there into the tree. -/
theorem walk_cons_eq_inside_iff {name : String} {names : List String} :
    t.walk l (name :: names) = .inside place ↔
      t.entry? l = some .folder ∧ ∃ m, next? l name = some m ∧ t.walk m names = .inside place := by
  conv =>
    lhs
    unfold walk
  split
  · next h => simp [h]
  · next h => simp [h]
  · next h =>
    by_cases hup : name = ".."
    · cases l with
      | nil => simp [next?, hup]
      | cons a l => simp [next?, hup, h]
    · simp [next?, hup, h]

/-- A path into the tree goes on from where its front leads. -/
theorem exists_walk_of_append {names more : List String}
    (h : t.walk l (names ++ more) = .inside place) :
    ∃ m, t.walk l names = .inside m ∧ t.walk m more = .inside place := by
  induction names generalizing l with
  | nil => exact ⟨l, rfl, h⟩
  | cons name names ih =>
    obtain ⟨hfolder, k, hk, hwalk⟩ := walk_cons_eq_inside_iff.1 h
    obtain ⟨m, hm, hmore⟩ := ih hwalk
    exact ⟨m, walk_cons_eq_inside_iff.2 ⟨hfolder, k, hk, hm⟩, hmore⟩

theorem ne_nil_of_file (hfile : t.entry? place = some (.file old)) : place ≠ [] := by
  rintro rfl
  cases hfile

/-- Other content in a file changes nothing for folders, through which paths go. -/
theorem walk_put (hfile : t.entry? place = some (.file old)) (new : List UInt8)
    {names : List String} {m : Location} (h : t.walk l names = .inside m) :
    (t.put place (.file new)).walk l names = .inside m := by
  induction names generalizing l with
  | nil => exact h
  | cons name names ih =>
    obtain ⟨hfolder, k, hk, hwalk⟩ := walk_cons_eq_inside_iff.1 h
    have hl : l ≠ place := by
      rintro rfl
      rw [hfile] at hfolder
      cases hfolder
    refine walk_cons_eq_inside_iff.2 ⟨?_, k, hk, ih hwalk⟩
    rw [entry?_put (ne_nil_of_file hfile), if_neg hl, hfolder]

/-! ## What a path to a file says -/

theorem find?_of_content? (h : t.content? p = some old) : t.find? p = some (.file old) := by
  unfold content? at h
  split at h
  · next hfile =>
    cases h
    exact hfile
  · cases h

/-- Whether a path leads to the place of a file with some content. -/
theorem content?_eq_some_iff :
    t.content? p = some old ↔ p.isUnusable = false ∧
      ∃ place, t.follow p = .inside place ∧ t.entry? place = some (.file old) := by
  unfold content? find?
  split
  · next hfile =>
    split at hfile
    · cases hfile
    · next husable =>
      split at hfile
      · next place hplace => simp [husable, hplace, hfile]
      · cases hfile
      · cases hfile
  · next hno =>
    simp only [reduceCtorEq, false_iff, not_and, not_exists]
    rintro husable place hplace hfile
    rw [if_neg (by simp [husable]), hplace] at hno
    exact hno _ hfile

/-- The names of a path into the tree are followed from the working folder. -/
theorem follow_eq_inside {place : Location} (h : t.follow p = .inside place) :
    (p.anchor = .here ∨ ∃ s, p.anchor = .folder s) ∧ t.walk [] p.names = .inside place := by
  unfold follow at h
  split at h
  · next ha => exact ⟨.inl ha, h⟩
  · next s ha => exact ⟨.inr ⟨s, ha⟩, h⟩
  · cases h
  · cases h

theorem follow_of_walk {names : List String} {a : Anchor} (h : a = .here ∨ ∃ s, a = .folder s) :
    t.follow ⟨a, names⟩ = t.walk [] names := by
  rcases h with rfl | ⟨s, rfl⟩ <;> rfl

/-! ## Writing -/

/-- The folders on the way to a file are there, so none is made. -/
theorem ensureFolders_of_walk {a : Anchor} {up : List String} {m : Location}
    (ha : a = .here ∨ ∃ s, a = .folder s) (husable : Path.isUnusable ⟨a, up.reverse⟩ = false)
    (hwalk : t.walk [] up.reverse = .inside m) (hfolder : t.entry? m = some .folder) :
    t.ensureFolders a up = (t, none) := by
  cases up with
  | nil => rfl
  | cons name up =>
    have hfollow : t.follow ⟨a, (name :: up).reverse⟩ = .inside m := by
      rw [follow_of_walk ha, hwalk]
    have hname : ¬Path.isUnusable ⟨a, (name :: up).reverse⟩ = true := by
      rw [husable]
      exact Bool.false_ne_true
    have hmake : t.makeFolder ⟨a, (name :: up).reverse⟩ =
        .error (.occupied (Path.text ⟨a, (name :: up).reverse⟩)) := by
      unfold makeFolder
      rw [if_neg hname, hfollow]
      simp only [hfolder]
    have hfind : t.isFolder ⟨a, (name :: up).reverse⟩ = true := by
      unfold isFolder find?
      rw [if_neg hname, hfollow]
      simp only [hfolder]
    have hensure : t.ensureFolder ⟨a, (name :: up).reverse⟩ = (t, none) := by
      unfold ensureFolder
      simp only [hmake, hfind, if_true]
    unfold ensureFolders
    simp only [hensure]

/-- What it is for a tree to come of another by other content in the file that a path leads to. -/
structure Rewrites (t t' : FileTree) (p : Path) (old new : List UInt8) : Prop where
  before : t.content? p = some old
  after : t'.content? p = some new
  elsewhere : ∃ place, t.follow p = .inside place ∧ ∀ l, l ≠ place → t'.entry? l = t.entry? l

/-- A file that is there can be written, and nothing else changes. -/
theorem write_existing (h : t.content? p = some old) (new : List UInt8) :
    ∃ t', t.write p new = (t', none) ∧ t.Rewrites t' p old new := by
  obtain ⟨husable, place, hplace, hfile⟩ := content?_eq_some_iff.1 h
  obtain ⟨ha, hwalk⟩ := follow_eq_inside hplace
  have hne := ne_nil_of_file hfile
  obtain ⟨names, name, hnames⟩ : ∃ names name, p.names = names ++ [name] := by
    rcases List.eq_nil_or_concat p.names with hnil | ⟨names, name, hnames⟩
    · rw [hnil] at hwalk
      cases hwalk
      exact absurd rfl hne
    · exact ⟨names, name, by rw [hnames, List.concat_eq_append]⟩
  rw [hnames] at hwalk
  obtain ⟨m, hm, hlast⟩ := exists_walk_of_append hwalk
  have hfolders : t.ensureFolders p.anchor p.names.reverse.tail = (t, none) := by
    have hup : p.names.reverse.tail = names.reverse := by simp [hnames]
    rw [hup]
    refine ensureFolders_of_walk ha ?_ (by rw [List.reverse_reverse, hm])
      (walk_cons_eq_inside_iff.1 hlast).1
    rw [Path.isUnusable, hnames, List.any_append, Bool.or_eq_false_iff] at husable
    rw [Path.isUnusable, List.reverse_reverse]
    exact husable.1
  have hwrite : t.writeFile p new = .ok (t.put place (.file new)) := by
    unfold writeFile
    rw [if_neg (by simp [husable]), hplace]
    simp only [hfile]
  refine ⟨t.put place (.file new), ?_, h, ?_, place, hplace, fun l hl => ?_⟩
  · unfold write
    simp only [hfolders, hwrite]
  · refine content?_eq_some_iff.2 ⟨husable, place, ?_, ?_⟩
    · have hfollow : (t.put place (.file new)).follow p = (t.put place (.file new)).walk [] p.names :=
        follow_of_walk ha
      rw [hfollow, hnames]
      exact walk_put hfile new hwalk
    · rw [entry?_put hne, if_pos rfl]
  · rw [entry?_put hne, if_neg hl]

end FormEdit.FileTree
