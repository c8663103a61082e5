import HelpQuery.Files.Config

/-!
# Which settings files are found

The walk from a start looks at its ancestors up to the first one that holds a root file, and finds
the settings files of those it looks at:

    p ∈ (walk fs dirs).1 ↔ ∃ dir, WalksTo fs dirs dir ∧ p = settingsPath dir ∧ fs.isFile p
    (walk fs dirs).2 = true ↔ ∃ dir ∈ dirs, HoldsRoot fs dir

Which files are found, and what loading them gives, is settled by the content of files alone.
-/

namespace HelpQuery

/-! ## Contents of files -/

namespace FileSystem

/-- What reading the file at a path gives, if there is a file. -/
def content? (fs : FileSystem) (p : Path) : Option (Except FileError String) :=
  match fs.entry? p with
  | .ok (.file content) => some content
  | _ => none

theorem isFile_eq (fs : FileSystem) (p : Path) : fs.isFile p = (fs.content? p).isSome := by
  unfold isFile content?
  split <;> simp_all

theorem isFile_iff {fs : FileSystem} {p : Path} :
    fs.isFile p = true ↔ ∃ content, fs.content? p = some content := by
  rw [fs.isFile_eq, Option.isSome_iff_exists]

theorem read_of_content? {fs : FileSystem} {p : Path} {content : Except FileError String}
    (h : fs.content? p = some content) : fs.read p = content := by
  unfold content? at h
  split at h
  · next c hentry =>
    obtain rfl := Option.some.inj h
    unfold read
    rw [hentry]
    rfl
  · cases h

end FileSystem

theorem counts_settingsFileName (first : Bool) : Path.counts first settingsFileName = true := by
  cases first <;> decide

/-- The path of a directory's settings file. -/
def settingsPath (dir : Path) : Path := dir.join settingsFileName

/-- A directory has a settings file that can be read, is well-formed and calls itself the root. -/
def HoldsRoot (fs : FileSystem) (dir : Path) : Prop :=
  ∃ text file, fs.content? (settingsPath dir) = some (.ok text) ∧
    SettingsFile.parse? text = some file ∧ file.root? = some true

/-- Loading a file depends on its content alone. -/
theorem LoadedFile.read_congr {fs fs' : FileSystem} {p : Path} (hfile : fs.isFile p = true)
    (h : fs.content? p = fs'.content? p) : LoadedFile.read fs p = LoadedFile.read fs' p := by
  obtain ⟨content, hcontent⟩ := FileSystem.isFile_iff.1 hfile
  unfold LoadedFile.read
  rw [FileSystem.read_of_content? hcontent, FileSystem.read_of_content? (h ▸ hcontent)]

/-! ## The walk -/

theorem isRootFile_iff {fs : FileSystem} {dir : Path}
    (hfile : fs.isFile (settingsPath dir) = true) :
    isRootFile fs (settingsPath dir) = true ↔ HoldsRoot fs dir := by
  obtain ⟨content, hcontent⟩ := FileSystem.isFile_iff.1 hfile
  unfold isRootFile HoldsRoot
  rw [FileSystem.read_of_content? hcontent, hcontent]
  cases content with
  | error cause => simp
  | ok text => simp [Option.bind_eq_some_iff]

theorem HoldsRoot.isFile {fs : FileSystem} {dir : Path} (h : HoldsRoot fs dir) :
    fs.isFile (settingsPath dir) = true := by
  obtain ⟨text, file, hcontent, -⟩ := h
  exact FileSystem.isFile_iff.2 ⟨_, hcontent⟩

theorem walk_cons (fs : FileSystem) (dir : Path) (rest : List Path) :
    walk fs (dir :: rest) =
      if !fs.isFile (settingsPath dir) then walk fs rest
      else if isRootFile fs (settingsPath dir) then ([settingsPath dir], true)
      else (settingsPath dir :: (walk fs rest).1, (walk fs rest).2) := by
  rw [walk]
  rfl

/-- The walk ends at a root. -/
theorem walk_cons_root {fs : FileSystem} {dir : Path} (rest : List Path) (h : HoldsRoot fs dir) :
    walk fs (dir :: rest) = ([settingsPath dir], true) := by
  rw [walk_cons, if_neg (by simp [h.isFile]), if_pos ((isRootFile_iff h.isFile).2 h)]

/-- The walk passes all other directories and takes the files they have. -/
theorem walk_cons_of_not_root {fs : FileSystem} {dir : Path} (rest : List Path)
    (h : ¬ HoldsRoot fs dir) :
    walk fs (dir :: rest) =
      ([settingsPath dir].filter fs.isFile ++ (walk fs rest).1, (walk fs rest).2) := by
  rw [walk_cons]
  cases hfile : fs.isFile (settingsPath dir) with
  | false => simp [hfile]
  | true =>
    have hroot : ¬ isRootFile fs (settingsPath dir) = true := fun hr =>
      h ((isRootFile_iff hfile).1 hr)
    rw [if_neg (by simp), if_neg hroot]
    simp [hfile]

/-- Where no root is held the walk takes the files there are and goes on. -/
theorem walk_append {fs : FileSystem} {before : List Path}
    (h : ∀ dir ∈ before, ¬ HoldsRoot fs dir) (rest : List Path) :
    walk fs (before ++ rest) =
      ((before.map settingsPath).filter fs.isFile ++ (walk fs rest).1, (walk fs rest).2) := by
  induction before with
  | nil => rfl
  | cons first before ih =>
    obtain ⟨hfirst, hbefore⟩ := List.forall_mem_cons.1 h
    have hsplit : (first :: before).map settingsPath =
        [settingsPath first] ++ before.map settingsPath := rfl
    rw [List.cons_append, walk_cons_of_not_root _ hfirst, ih hbefore, hsplit, List.filter_append,
      List.append_assoc]

/-- The walk along directories gets to one of them: no root is held in front of it. -/
def WalksTo (fs : FileSystem) (dirs : List Path) (dir : Path) : Prop :=
  ∃ before after, dirs = before ++ dir :: after ∧ ∀ d ∈ before, ¬ HoldsRoot fs d

theorem walksTo_cons (fs : FileSystem) (first : Path) (rest : List Path) (dir : Path) :
    WalksTo fs (first :: rest) dir ↔
      dir = first ∨ ¬ HoldsRoot fs first ∧ WalksTo fs rest dir := by
  constructor
  · rintro ⟨_ | ⟨d, before⟩, after, h, hbefore⟩
    · exact Or.inl (List.cons.inj h).1.symm
    · obtain ⟨rfl, rfl⟩ := List.cons.inj h
      obtain ⟨hfirst, hbefore⟩ := List.forall_mem_cons.1 hbefore
      exact Or.inr ⟨hfirst, before, after, rfl, hbefore⟩
  · rintro (rfl | ⟨hfirst, before, after, rfl, hbefore⟩)
    · exact ⟨[], rest, rfl, by simp⟩
    · exact ⟨first :: before, after, rfl, List.forall_mem_cons.2 ⟨hfirst, hbefore⟩⟩

/-- The walk finds the files of the directories it gets to. -/
theorem mem_walk_iff (fs : FileSystem) (dirs : List Path) (p : Path) :
    p ∈ (walk fs dirs).1 ↔
      ∃ dir, WalksTo fs dirs dir ∧ p = settingsPath dir ∧ fs.isFile p = true := by
  induction dirs with
  | nil => simp [walk, WalksTo]
  | cons first rest ih =>
    simp only [walksTo_cons, or_and_right, exists_or, exists_eq_left]
    by_cases hroot : HoldsRoot fs first
    · rw [walk_cons_root rest hroot]
      simp only [hroot, not_true_eq_false, false_and, exists_false, or_false, List.mem_singleton]
      constructor
      · rintro rfl
        exact ⟨rfl, hroot.isFile⟩
      · exact And.left
    · rw [walk_cons_of_not_root rest hroot]
      simp only [hroot, not_false_eq_true, true_and, List.mem_append, List.mem_filter,
        List.mem_singleton, ih]

theorem walk_stopped_iff (fs : FileSystem) (dirs : List Path) :
    (walk fs dirs).2 = true ↔ ∃ dir ∈ dirs, HoldsRoot fs dir := by
  induction dirs with
  | nil => simp [walk]
  | cons first rest ih =>
    by_cases hroot : HoldsRoot fs first
    · simp [walk_cons_root rest hroot, hroot]
    · simp [walk_cons_of_not_root rest hroot, hroot, ih]

/-! ## All files that apply -/

/-- A root on the way hides the global file. -/
theorem discover_of_root {fs : FileSystem} {start : Path}
    (h : ∃ dir ∈ start.ancestors, HoldsRoot fs dir) (home? : Option Path) :
    discover fs home? start = (walk fs start.ancestors).1 := by
  rw [← walk_stopped_iff] at h
  unfold discover
  simp only [h]

/-- Without a root the global file comes last, unless it is none or has been found. -/
theorem discover_of_no_root {fs : FileSystem} {start : Path}
    (h : ¬ ∃ dir ∈ start.ancestors, HoldsRoot fs dir) (home : Path) :
    discover fs (some home) start = (walk fs start.ancestors).1 ++
      if fs.isFile (globalSettings home) = true ∧
          ∀ p ∈ (walk fs start.ancestors).1, (globalSettings home).same p = false
        then [globalSettings home] else [] := by
  rw [← walk_stopped_iff, Bool.not_eq_true] at h
  unfold discover
  simp only [h]
  split
  · next hglobal =>
    rw [if_pos (by simpa using hglobal)]
  · next hglobal =>
    rw [if_neg (by simpa using hglobal), List.append_nil]

theorem discover_noHome (fs : FileSystem) (start : Path) :
    discover fs none start = (walk fs start.ancestors).1 := by
  unfold discover
  cases walk fs start.ancestors with
  | mk found stopped => cases stopped <;> rfl

/-- What the walk finds comes first. -/
theorem discover_eq_append (fs : FileSystem) (home? : Option Path) (start : Path) :
    ∃ more, discover fs home? start = (walk fs start.ancestors).1 ++ more := by
  by_cases hroot : ∃ dir ∈ start.ancestors, HoldsRoot fs dir
  · exact ⟨[], by rw [discover_of_root hroot, List.append_nil]⟩
  · cases home? with
    | none => exact ⟨[], by rw [discover_noHome, List.append_nil]⟩
    | some home => exact ⟨_, discover_of_no_root hroot home⟩

/-- Only files apply. -/
theorem isFile_of_mem_discover {fs : FileSystem} {home? : Option Path} {start p : Path}
    (h : p ∈ discover fs home? start) : fs.isFile p = true := by
  have hwalk : p ∈ (walk fs start.ancestors).1 → fs.isFile p = true := fun hp => by
    obtain ⟨-, -, -, hfile⟩ := (mem_walk_iff fs _ p).1 hp
    exact hfile
  by_cases hroot : ∃ dir ∈ start.ancestors, HoldsRoot fs dir
  · exact hwalk (discover_of_root hroot home? ▸ h)
  · cases home? with
    | none => exact hwalk (discover_noHome fs start ▸ h)
    | some home =>
      rw [discover_of_no_root hroot, List.mem_append] at h
      rcases h with hp | hp
      · exact hwalk hp
      · split at hp
        · next hglobal =>
          obtain rfl := List.mem_singleton.1 hp
          exact hglobal.1
        · cases hp

end HelpQuery
