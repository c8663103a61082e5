import HelpQuery.Command.Run
import HelpQuery.Proofs.Fallible
import HelpQuery.Proofs.Paths
import HelpQuery.Proofs.SilentFiles

/-!
# New settings files

Writing passes the file system on, changed or, if it fails, as it was; so a run of `init` that fails
changes nothing.  One that succeeds puts the template at one location, that of the settings file of
the home directory or of the current one, where no directory may stand, nor a file if it is not
forced:

    (init writeText files home? cwd everywhere force).run files = (.ok out, files') ↔
      ∃ target loc, IsTarget home? cwd everywhere target ∧ files.locate target = .ok loc ∧
        files.at? loc ≠ some .directory ∧ (force = true ∨ files.at? loc = none) ∧ …

The template says nothing, so a new file changes no settings.
-/

namespace HelpQuery

/-! ## The file to write -/

/-- Whether the current directory is the home directory. -/
theorem any_parent?_globalSettings (home cwd : Path) :
    (globalSettings home).parent?.any cwd.same = cwd.same home := by
  obtain ⟨q, hq, hrooted, hnames⟩ := home.parent?_join counts_settingsFileName
  rw [globalSettings, hq, Option.any_some, Path.same, Path.same, hrooted, hnames]

namespace Command

/-- The path of a new settings file: the home directory's, if that is asked for or is the current
directory, and else the current directory's. -/
def IsTarget (home? : Option Path) (cwd : Path) (everywhere : Bool) (target : Path) : Prop :=
  (∃ home, home? = some home ∧ (everywhere = true ∨ cwd.same home = true) ∧
    target = settingsPath home) ∨
  everywhere = false ∧ (∀ home, home? = some home → cwd.same home = false) ∧
    target = settingsPath cwd

theorem initTarget_eq_ok_iff (home? : Option Path) (cwd : Path) (everywhere : Bool)
    (target : Path) :
    initTarget home? cwd everywhere = .ok target ↔ IsTarget home? cwd everywhere target := by
  unfold initTarget IsTarget
  cases home? with
  | none =>
    cases everywhere with
    | true => simp [throw_ne_ok]
    | false => simp [pure_eq_ok_iff, settingsPath]
  | some home =>
    simp only [any_parent?_globalSettings, pure_eq_ok_iff]
    cases everywhere <;> cases hsame : cwd.same home <;> simp [hsame, settingsPath, globalSettings]

theorem initPath_eq_ok_iff (files : FileSystem) (home? : Option Path) (cwd : Path)
    (everywhere force : Bool) (target : Path) :
    initPath files home? cwd everywhere force = .ok target ↔
      IsTarget home? cwd everywhere target ∧ (force = true ∨ files.exists? target = false) := by
  rw [← initTarget_eq_ok_iff]
  unfold initPath
  rw [bind_eq_ok_iff]
  constructor
  · rintro ⟨path, hpath, h⟩
    split at h
    · exact absurd h throw_ne_ok
    · next hallowed =>
      obtain rfl := pure_eq_ok_iff.1 h
      refine ⟨hpath, ?_⟩
      cases force with
      | true => exact Or.inl rfl
      | false => exact Or.inr (by simpa using hallowed)
  · rintro ⟨hpath, hfree⟩
    refine ⟨target, hpath, ?_⟩
    rw [if_neg]
    · rfl
    · rcases hfree with h | h <;> simp [h]

/-- A run ends where the path or the writing fails, and what the writing leaves is what it leaves. -/
theorem run_init_write (write : Path → String → StateM FileSystem (Except FileError Unit))
    (files : FileSystem) (home? : Option Path) (cwd : Path) (everywhere force : Bool)
    (before : FileSystem) :
    (init write files home? cwd everywhere force).run.run before =
      match initPath files home? cwd everywhere force with
      | .ok path =>
        match (write path settingsTemplate).run before with
        | (.ok (), after) => (.ok (created path), after)
        | (.error cause, after) => (.error (.notWritten path cause), after)
      | .error e => (.error e, before) := by
  rw [init, run_bind_liftExcept]
  cases initPath files home? cwd everywhere force with
  | error e => rfl
  | ok path =>
    simp only [run_bind_liftState]
    rcases (write path settingsTemplate).run before with ⟨_ | _, after⟩ <;> rfl

/-- A text that cannot be written leaves the file system as it was. -/
theorem run_writeText_error {path : Path} {text : String} {files after : FileSystem}
    {e : FileError} (h : (writeText path text).run files = (.error e, after)) : after = files := by
  change writeText path text files = _ at h
  unfold writeText at h
  split at h
  · cases h
  · cases h
    rfl

theorem run_writeText_ok {path : Path} {text : String} {files after : FileSystem} :
    (writeText path text).run files = (.ok (), after) ↔ files.write path (.ok text) = .ok after := by
  change writeText path text files = _ ↔ _
  unfold writeText
  cases files.write path (.ok text) with
  | ok changed =>
    constructor
    · rintro ⟨⟩
      rfl
    · rintro ⟨⟩
      rfl
  | error e => exact ⟨nofun, nofun⟩

/-- A run of `init` that fails changes nothing: nothing is written before it is known where, and
nothing is done after the writing. -/
theorem init_eq_error {files after : FileSystem} {home? : Option Path} {cwd : Path}
    {everywhere force : Bool} {e : Failure}
    (h : (init writeText files home? cwd everywhere force).run.run files = (.error e, after)) :
    after = files := by
  rw [run_init_write] at h
  split at h
  · split at h
    · cases h
    · next hwrite =>
      cases h
      exact run_writeText_error hwrite
  · cases h
    rfl

/-- When a settings file is written, and where. -/
theorem init_eq_ok_iff (files : FileSystem) (home? : Option Path) (cwd : Path)
    (everywhere force : Bool) (out : Output) (files' : FileSystem) :
    (init writeText files home? cwd everywhere force).run.run files = (.ok out, files') ↔
      ∃ target loc, IsTarget home? cwd everywhere target ∧ files.locate target = .ok loc ∧
        files.at? loc ≠ some .directory ∧ (force = true ∨ files.at? loc = none) ∧
        out = created target ∧ files' = files.put loc (.file (.ok settingsTemplate)) := by
  have hinit : (init writeText files home? cwd everywhere force).run.run files =
        (.ok out, files') ↔
      ∃ target, initPath files home? cwd everywhere force = .ok target ∧
        files.write target (.ok settingsTemplate) = .ok files' ∧ out = created target := by
    rw [run_init_write]
    cases initPath files home? cwd everywhere force with
    | error e => exact ⟨nofun, nofun⟩
    | ok path =>
      simp only [Except.ok.injEq, exists_eq_left', ← run_writeText_ok]
      generalize (writeText path settingsTemplate).run files = written
      rcases written with ⟨_ | _, after⟩
      · exact ⟨nofun, fun h => nomatch h.1⟩
      · constructor
        · rintro ⟨⟩
          exact ⟨rfl, rfl⟩
        · rintro ⟨⟨⟩, rfl⟩
          rfl
  simp only [hinit, initPath_eq_ok_iff, FileSystem.write_eq_ok_iff]
  constructor
  · rintro ⟨target, ⟨htarget, hfree⟩, ⟨loc, hloc, hat, rfl⟩, rfl⟩
    rw [FileSystem.exists?_eq_false_iff hloc] at hfree
    exact ⟨target, loc, htarget, hloc, hat, hfree, rfl, rfl⟩
  · rintro ⟨target, loc, htarget, hloc, hat, hfree, rfl, rfl⟩
    rw [← FileSystem.exists?_eq_false_iff hloc] at hfree
    exact ⟨target, ⟨htarget, hfree⟩, ⟨loc, hloc, hat, rfl⟩, rfl⟩

/-- What a request prints is made of the result of its run, which leaves the file system. -/
theorem run_eq (env : Surroundings) (request : Request) :
    run env request =
      ((perform writeText env request).run.run env.files).map Output.ofResult id := by
  rw [run, respond, StateT.run_bind]
  rfl

theorem perform_init (env : Surroundings) (everywhere force : Bool) :
    (perform writeText env (.init everywhere force)).run.run env.files =
      match env.cwd with
      | .ok cwd => (init writeText env.files env.home? cwd everywhere force).run.run env.files
      | .error e => (.error (.noCurrentDirectory e), env.files) := by
  unfold perform currentDirectory
  cases env.cwd <;> rfl

/-- A run of `init` that fails changes nothing.  One that succeeds writes the template at the place
of the settings file it is for, and nothing else; it replaces a file only if forced to; and if it
replaced none, the settings that apply to any directory, or the error, are what they were. -/
theorem run_init {env : Surroundings} {everywhere force : Bool} {out : Output} {files : FileSystem}
    (h : run env (.init everywhere force) = (out, files)) :
    (out.failed = true → files = env.files) ∧
    (out.failed = false → ∃ cwd target loc, env.cwd = .ok cwd ∧
      IsTarget env.home? cwd everywhere target ∧ env.files.locate target = .ok loc ∧
      files.at? loc = some (.file (.ok settingsTemplate)) ∧
      files.read target = .ok settingsTemplate ∧
      (∀ l, l ≠ loc → files.at? l = env.files.at? l) ∧
      (force = false → env.files.at? loc = none) ∧
      (env.files.at? loc = none → ∀ start,
        (Config.load files env.home? start).map Config.settings =
          (Config.load env.files env.home? start).map Config.settings)) := by
  rw [run_eq, perform_init] at h
  cases hcwd : env.cwd with
  | error e =>
    rw [hcwd] at h
    cases h
    exact ⟨fun _ => rfl, fun hfailed => (Bool.false_ne_true hfailed.symm).elim⟩
  | ok cwd =>
  rw [hcwd] at h
  rcases hinit : (init writeText env.files env.home? cwd everywhere force).run.run env.files with
    ⟨e | written, files'⟩
  · simp only [hinit] at h
    cases h
    exact ⟨fun _ => init_eq_error hinit, fun hfailed => (Bool.false_ne_true hfailed.symm).elim⟩
  · simp only [hinit] at h
    cases h
    obtain ⟨target, loc, htarget, hloc, hat, hfree, rfl, rfl⟩ := (init_eq_ok_iff ..).1 hinit
    have hwritten := env.files.at?_put_self (FileSystem.ne_nil_of_at? hat)
      (.file (.ok settingsTemplate))
    refine ⟨fun hfailed => (Bool.false_ne_true hfailed).elim, fun _ => ?_⟩
    refine ⟨cwd, target, loc, rfl, htarget, hloc, hwritten, ?_,
      fun l hl => env.files.at?_put_of_ne hl _, ?_, fun hnone start => ?_⟩
    · refine FileSystem.read_of_content? ((FileSystem.content?_eq_some_iff _ _ _).2 ?_)
      exact ⟨loc, (FileSystem.locate_congr (FileSystem.sameDirectories_put hat _) _ _).1 hloc,
        hwritten⟩
    · rintro rfl
      exact hfree.resolve_left Bool.false_ne_true
    · exact ((addsSilently_put hnone parse?_settingsTemplate).settings_load env.home? start).symm

/-- A directory below the home directory, which has a settings file. -/
def helpSurroundings : Surroundings where
  files :=
    ⟨[(["home"], .directory),
      (["home", ".hq.toml"], .file (.ok "[search]\nstemmer = \"german\"\n")),
      (["home", "help"], .directory)]⟩
  home? := some (.ofString "/home")
  cwd := .ok (.ofString "/home/help")

/-- A new file in the directory itself changes no settings, and the file of the home directory is
not replaced. -/
theorem run_init_help :
    (run helpSurroundings (.init false false)).1.failed = false ∧
    (∀ start,
      (Config.load (run helpSurroundings (.init false false)).2 (some (.ofString "/home"))
          start).map Config.settings =
        (Config.load helpSurroundings.files (some (.ofString "/home")) start).map
          Config.settings) ∧
    (run helpSurroundings (.init true false)).1.failed = true ∧
    (run helpSurroundings (.init true false)).2 = helpSurroundings.files := by
  have hok : (run helpSurroundings (.init false false)).1.failed = false := by decide +kernel
  have hfailed : (run helpSurroundings (.init true false)).1.failed = true := by decide +kernel
  obtain ⟨-, -, loc, -, -, -, -, -, -, hfree, hneutral⟩ :=
    (@run_init helpSurroundings false false _ _ rfl).2 hok
  exact ⟨hok, hneutral (hfree rfl), hfailed,
    (@run_init helpSurroundings true false _ _ rfl).1 hfailed⟩

end Command

end HelpQuery
