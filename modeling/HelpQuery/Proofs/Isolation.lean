import HelpQuery.Proofs.Discovery
import HelpQuery.Proofs.Fallible

/-!
# Isolation by root files

A root file shuts out all that lies behind it: two file systems with the same settings files in the
directories up to the closest root give the same settings, whatever else they hold.  A file that
is found but cannot be loaded is never passed over:

    loadFiles fs paths = .error e ↔
      ∃ before p after, paths = before ++ p :: after ∧ (no q ∈ before has a fault) ∧ Fault fs p e

So a faulty file that no root is in front of fails the loading, even if it was meant as a root.
-/

namespace HelpQuery

/-! ## Isolation -/

/-- Walks agree where the files of the directories they get to do. -/
theorem walk_congr {fs fs' : FileSystem} {dirs : List Path}
    (h : ∀ dir, WalksTo fs dirs dir →
      fs.content? (settingsPath dir) = fs'.content? (settingsPath dir)) :
    walk fs dirs = walk fs' dirs := by
  induction dirs with
  | nil => rfl
  | cons first rest ih =>
    have hfirst := h first ((walksTo_cons fs first rest first).2 (Or.inl rfl))
    have hiff : HoldsRoot fs first ↔ HoldsRoot fs' first := by
      unfold HoldsRoot
      rw [hfirst]
    by_cases hroot : HoldsRoot fs first
    · rw [walk_cons_root rest hroot, walk_cons_root rest (hiff.1 hroot)]
    · have hfile : fs.isFile (settingsPath first) = fs'.isFile (settingsPath first) := by
        rw [fs.isFile_eq, fs'.isFile_eq, hfirst]
      have hrest := ih fun dir hdir =>
        h dir ((walksTo_cons fs first rest dir).2 (Or.inr ⟨hroot, hdir⟩))
      rw [walk_cons_of_not_root rest hroot, walk_cons_of_not_root rest (mt hiff.2 hroot), hrest]
      simp [List.filter_cons, hfile]

/-- Loading depends on the contents of the files loaded. -/
theorem Config.loadFiles_congr {fs fs' : FileSystem} {paths : List Path}
    (h : ∀ p ∈ paths, fs.isFile p = true ∧ fs.content? p = fs'.content? p) :
    loadFiles fs paths = loadFiles fs' paths := by
  have hread : paths.mapM (LoadedFile.read fs) = paths.mapM (LoadedFile.read fs') := by
    induction paths with
    | nil => rfl
    | cons p paths ih =>
      obtain ⟨⟨hfile, hcontent⟩, hpaths⟩ := List.forall_mem_cons.1 h
      rw [List.mapM_cons, List.mapM_cons, LoadedFile.read_congr hfile hcontent, ih hpaths]
  rw [loadFiles, loadFiles, hread]

/-- What is loaded inside a root directory is settled by the directories up to the closest one. -/
theorem Config.load_of_root {fs fs' : FileSystem} {start : Path}
    (hroot : ∃ dir ∈ start.ancestors, HoldsRoot fs dir)
    (h : ∀ dir, WalksTo fs start.ancestors dir →
      fs.content? (settingsPath dir) = fs'.content? (settingsPath dir))
    (home? home'? : Option Path) :
    load fs home? start = load fs' home'? start := by
  have hwalk : walk fs start.ancestors = walk fs' start.ancestors := walk_congr h
  have hroot' : ∃ dir ∈ start.ancestors, HoldsRoot fs' dir := by
    rwa [← walk_stopped_iff, ← hwalk, walk_stopped_iff]
  unfold load
  rw [discover_of_root hroot, discover_of_root hroot', ← hwalk]
  refine loadFiles_congr fun p hp => ?_
  obtain ⟨dir, hreached, rfl, hfile⟩ := (mem_walk_iff fs _ p).1 hp
  exact ⟨hfile, h dir hreached⟩

/-! ## Faults -/

/-- Why a settings file that is there cannot be loaded. -/
inductive Fault (fs : FileSystem) (p : Path) : ConfigError → Prop where
  | unreadable {cause : FileError} :
    fs.content? p = some (.error cause) → Fault fs p (.unreadable p cause)
  | malformed {text : String} :
    fs.content? p = some (.ok text) → SettingsFile.parse? text = none → Fault fs p (.malformed p)

theorem LoadedFile.read_eq_error_iff {fs : FileSystem} {p : Path} (hfile : fs.isFile p = true)
    (e : ConfigError) : LoadedFile.read fs p = .error e ↔ Fault fs p e := by
  obtain ⟨content, hcontent⟩ := FileSystem.isFile_iff.1 hfile
  unfold LoadedFile.read LoadedFile.parse
  rw [FileSystem.read_of_content? hcontent]
  constructor
  · intro h
    cases content with
    | error cause =>
      cases h
      exact .unreadable hcontent
    | ok text =>
      cases hparse : SettingsFile.parse? text with
      | some file => simp [hparse] at h
      | none =>
        simp only [hparse] at h
        cases h
        exact .malformed hcontent hparse
  · rintro (h | ⟨h, hparse⟩) <;> cases hcontent.symm.trans h
    · rfl
    · simp only [hparse]

/-- Loading files fails with the fault of the first that has one. -/
theorem Config.loadFiles_eq_error_iff {fs : FileSystem} {paths : List Path}
    (hfiles : ∀ p ∈ paths, fs.isFile p = true) (e : ConfigError) :
    loadFiles fs paths = .error e ↔
      ∃ before p after, paths = before ++ p :: after ∧ (∀ q ∈ before, ∀ e', ¬ Fault fs q e') ∧
        Fault fs p e := by
  have hmap : loadFiles fs paths = .error e ↔ paths.mapM (LoadedFile.read fs) = .error e := by
    unfold loadFiles
    cases paths.mapM (LoadedFile.read fs) <;> simp [Except.map]
  rw [hmap, mapM_eq_error_iff]
  -- both sides split the list in the same way, and what is in its parts are files
  refine exists_congr fun before => exists_congr fun p => exists_congr fun after =>
    and_congr_right fun hpaths => and_congr ?_ ?_
  · refine forall_congr' fun q => forall_congr' fun hq => forall_congr' fun e' => not_congr ?_
    exact LoadedFile.read_eq_error_iff (hfiles q (by simp [hpaths, hq])) e'
  · exact LoadedFile.read_eq_error_iff (hfiles p (by simp [hpaths])) e

/-- A file with a fault among those that apply fails the loading. -/
theorem Config.load_of_fault {fs : FileSystem} {home? : Option Path} {start p : Path}
    (hp : p ∈ discover fs home? start) {e : ConfigError} (hfault : Fault fs p e) :
    ∃ e', load fs home? start = .error e' := by
  unfold load loadFiles
  rcases mapM_cases (LoadedFile.read fs) (discover fs home? start) with
    ⟨_, -, hread, -⟩ | ⟨e', herror, -⟩
  · obtain ⟨file, -, hok⟩ := hread p hp
    rw [(LoadedFile.read_eq_error_iff (isFile_of_mem_discover hp) e).2 hfault] at hok
    cases hok
  · rw [herror]
    exact ⟨e', rfl⟩

/-- The closest directory with a faulty file decides, if no root is in front of it. -/
theorem Config.load_of_closest_fault {fs : FileSystem} {start dir : Path}
    {before after : List Path} (hdirs : start.ancestors = before ++ dir :: after)
    (hroots : ∀ d ∈ before, ¬ HoldsRoot fs d)
    (hbefore : ∀ d ∈ before, ∀ e', ¬ Fault fs (settingsPath d) e') {e : ConfigError}
    (hfault : Fault fs (settingsPath dir) e) (home? : Option Path) :
    load fs home? start = .error e := by
  have hfile : fs.isFile (settingsPath dir) = true := by
    rcases hfault with h | ⟨h, -⟩ <;> exact FileSystem.isFile_iff.2 ⟨_, h⟩
  have hnext : ∃ rest, (walk fs (dir :: after)).1 = settingsPath dir :: rest := by
    by_cases hroot : HoldsRoot fs dir
    · exact ⟨[], by rw [walk_cons_root after hroot]⟩
    · exact ⟨(walk fs after).1, by simp [walk_cons_of_not_root after hroot, hfile]⟩
  obtain ⟨rest, hrest⟩ := hnext
  obtain ⟨more, hmore⟩ := discover_eq_append fs home? start
  rw [hdirs, walk_append hroots, hrest, List.append_assoc, List.cons_append] at hmore
  refine (loadFiles_eq_error_iff (fun p => isFile_of_mem_discover) e).2
    ⟨_, settingsPath dir, _, hmore, fun q hq => ?_, hfault⟩
  obtain ⟨d, hd, rfl⟩ := List.mem_map.1 (List.mem_filter.1 hq).1
  exact hbefore d hd

/-! ## Roots and faults -/

/-- Inside a root directory nothing but the files of the directories up to the closest one counts;
a faulty file that applies fails the loading with the fault of the closest faulty one, and so does
one in any directory no root is in front of. -/
theorem Config.load_isolated (fs : FileSystem) (home? : Option Path) (start : Path) :
    ((∃ dir ∈ start.ancestors, HoldsRoot fs dir) →
      ∀ fs' home'?, (∀ dir, WalksTo fs start.ancestors dir →
          fs.content? (settingsPath dir) = fs'.content? (settingsPath dir)) →
        load fs home? start = load fs' home'? start) ∧
    ((∃ p ∈ discover fs home? start, ∃ e, Fault fs p e) →
      ∃ before p after e, discover fs home? start = before ++ p :: after ∧
        (∀ q ∈ before, ∀ e', ¬ Fault fs q e') ∧ Fault fs p e ∧
        load fs home? start = .error e) ∧
    ∀ before dir after e, start.ancestors = before ++ dir :: after →
      (∀ d ∈ before, ¬ HoldsRoot fs d ∧ ∀ e', ¬ Fault fs (settingsPath d) e') →
      Fault fs (settingsPath dir) e → load fs home? start = .error e := by
  refine ⟨fun hroot fs' home'? h => load_of_root hroot h home? home'?, ?_, ?_⟩
  · rintro ⟨p, hp, e, hfault⟩
    obtain ⟨e', herror⟩ := load_of_fault hp hfault
    obtain ⟨before, q, after, hsplit, hbefore, hq⟩ :=
      (loadFiles_eq_error_iff (fun p => isFile_of_mem_discover) e').1 herror
    exact ⟨before, q, after, e', hsplit, hbefore, hq, herror⟩
  · intro before dir after e hdirs hbefore hfault
    exact load_of_closest_fault hdirs (fun d hd => (hbefore d hd).1) (fun d hd => (hbefore d hd).2)
      hfault home?

/-- A root file below a malformed file. -/
def rootedFiles : FileSystem where
  entries :=
    [(["work"], .directory),
     (["work", ".hq.toml"], .file (.ok "root =\n")),
     (["work", "help"], .directory),
     (["work", "help", ".hq.toml"], .file (.ok "root = true\n"))]

/-- The root file alone. -/
def rootAloneFiles : FileSystem where
  entries :=
    [(["work"], .directory),
     (["work", "help"], .directory),
     (["work", "help", ".hq.toml"], .file (.ok "root = true\n"))]

/-- The malformed file does not count below the root file, and fails the loading elsewhere. -/
theorem Config.load_isolated_rootedFiles :
    load rootedFiles (some (.ofString "/work")) (.ofString "/work/help") =
      load rootAloneFiles none (.ofString "/work/help") ∧
    (∃ before p after e, discover rootedFiles none (.ofString "/work") = before ++ p :: after ∧
      (∀ q ∈ before, ∀ e', ¬ Fault rootedFiles q e') ∧ Fault rootedFiles p e ∧
      load rootedFiles none (.ofString "/work") = .error e) ∧
    load rootedFiles none (.ofString "/work") =
      .error (.malformed (settingsPath (.ofString "/work"))) := by
  have hhelp : (Path.ofString "/work/help").ancestors =
      .ofString "/work/help" :: [.ofString "/work", ⟨true, []⟩] := by decide
  have hwork : (Path.ofString "/work").ancestors = [] ++ .ofString "/work" :: [⟨true, []⟩] := by
    decide
  have hroot : HoldsRoot rootedFiles (.ofString "/work/help") :=
    ⟨"root = true\n", ⟨some true, none⟩, rfl, by decide +kernel, rfl⟩
  have hcontent : rootedFiles.content? (settingsPath (.ofString "/work")) =
      some (.ok "root =\n") := rfl
  have hfault := Fault.malformed hcontent (by decide +kernel)
  have hlisted : settingsPath (.ofString "/work") ∈
      discover rootedFiles none (.ofString "/work") := by decide +kernel
  refine ⟨(load_isolated rootedFiles _ _).1 ⟨_, List.mem_cons_self, hroot⟩ _ _ fun dir h => ?_,
    (load_isolated rootedFiles none _).2.1 ⟨_, hlisted, _, hfault⟩,
    (load_isolated rootedFiles none _).2.2 [] _ _ _ hwork (by simp) hfault⟩
  rw [hhelp, walksTo_cons] at h
  rcases h with rfl | ⟨h, -⟩
  · rfl
  · exact absurd hroot h

end HelpQuery
