import HelpQuery.Proofs.Isolation
import HelpQuery.Proofs.Paths

/-!
# The list of settings files

The files that apply to a start are those of its ancestors, the closest first, up to the first root.
The ancestors have the initial segments of the names of the start, so no file is listed twice:

    discover fs home? start = ((before ++ [dir]).map settingsPath).filter fs.isFile
                                 if dir is the first of the ancestors that holds a root
    discover fs home? start = (start.ancestors.map settingsPath).filter fs.isFile ++ global
                                 if none of them does
-/

namespace HelpQuery

/-! ## Different files -/

theorem names_settingsPath (dir : Path) :
    (settingsPath dir).names = dir.names ++ [settingsFileName] :=
  dir.names_join counts_settingsFileName

/-- Settings files of directories with other names are at other paths. -/
theorem same_settingsPath_eq_false {dir outer : Path} (h : dir.names ≠ outer.names) :
    (settingsPath dir).same (settingsPath outer) = false := by
  rw [Path.same, Bool.and_eq_false_iff]
  right
  rw [names_settingsPath, names_settingsPath, beq_eq_false_iff_ne]
  exact fun heq => h (List.append_cancel_right heq)

theorem Path.same_comm (p q : Path) : p.same q = q.same p := by
  rw [same, same, BEq.comm (a := p.rooted), BEq.comm (a := p.names)]

/-- The files found on the way from a start are at different paths. -/
theorem pairwise_ancestors_settings (fs : FileSystem) {start : Path} {dirs : List Path}
    (h : dirs <+: start.ancestors) :
    ((dirs.map settingsPath).filter fs.isFile).Pairwise fun p q => p.same q = false := by
  refine (List.pairwise_map.2 ?_).filter _
  exact (start.pairwise_names_ancestors.sublist h.sublist).imp same_settingsPath_eq_false

/-! ## The list -/

/-- The global file, if it is a file and not among others. -/
def globalFile (fs : FileSystem) (home? : Option Path) (others : List Path) : List Path :=
  (home?.map globalSettings).toList.filter fun p => fs.isFile p && others.all fun q => !p.same q

/-- The list ends at the first root. -/
theorem discover_of_first_root {fs : FileSystem} {start dir : Path} {before after : List Path}
    (hdirs : start.ancestors = before ++ dir :: after) (hbefore : ∀ d ∈ before, ¬ HoldsRoot fs d)
    (hroot : HoldsRoot fs dir) (home? : Option Path) :
    discover fs home? start = ((before ++ [dir]).map settingsPath).filter fs.isFile := by
  have hmem : ∃ d ∈ start.ancestors, HoldsRoot fs d := ⟨dir, by simp [hdirs], hroot⟩
  rw [discover_of_root hmem, hdirs, walk_append hbefore, walk_cons_root after hroot,
    List.map_append, List.filter_append]
  simp [hroot.isFile]

/-- Without a root all files of the ancestors are listed, and the global one behind them. -/
theorem discover_of_no_roots {fs : FileSystem} {start : Path}
    (h : ∀ dir ∈ start.ancestors, ¬ HoldsRoot fs dir) (home? : Option Path) :
    discover fs home? start = (start.ancestors.map settingsPath).filter fs.isFile ++
      globalFile fs home? ((start.ancestors.map settingsPath).filter fs.isFile) := by
  have hwalk : (walk fs start.ancestors).1 =
      (start.ancestors.map settingsPath).filter fs.isFile := by
    have happend := walk_append h []
    rw [List.append_nil] at happend
    rw [happend, walk, List.append_nil]
  have hnone : ¬ ∃ dir ∈ start.ancestors, HoldsRoot fs dir := by
    rintro ⟨dir, hdir, hroot⟩
    exact h dir hdir hroot
  cases home? with
  | none => rw [discover_noHome, hwalk, globalFile, Option.map_none, Option.toList_none,
      List.filter_nil, List.append_nil]
  | some home =>
    rw [discover_of_no_root hnone, hwalk, globalFile]
    simp only [Option.map_some, Option.toList_some, List.filter_singleton, Bool.cond_eq_ite,
      Bool.and_eq_true, List.all_eq_true, Bool.not_eq_true']

/-- There is a first root on the way from a start, or none. -/
theorem first_root_cases (fs : FileSystem) (dirs : List Path) :
    (∀ dir ∈ dirs, ¬ HoldsRoot fs dir) ∨
      ∃ before dir after, dirs = before ++ dir :: after ∧ (∀ d ∈ before, ¬ HoldsRoot fs d) ∧
        HoldsRoot fs dir := by
  induction dirs with
  | nil => exact Or.inl (by simp)
  | cons first rest ih =>
    by_cases hfirst : HoldsRoot fs first
    · exact Or.inr ⟨[], first, rest, rfl, by simp, hfirst⟩
    · rcases ih with hrest | ⟨before, dir, after, rfl, hbefore, hdir⟩
      · exact Or.inl (List.forall_mem_cons.2 ⟨hfirst, hrest⟩)
      · exact Or.inr ⟨first :: before, dir, after, rfl,
          List.forall_mem_cons.2 ⟨hfirst, hbefore⟩, hdir⟩

/-- No file is listed twice. -/
theorem pairwise_discover (fs : FileSystem) (home? : Option Path) (start : Path) :
    (discover fs home? start).Pairwise fun p q => p.same q = false := by
  rcases first_root_cases fs start.ancestors with
    hnone | ⟨before, dir, after, hdirs, hbefore, hroot⟩
  · rw [discover_of_no_roots hnone, List.pairwise_append]
    refine ⟨pairwise_ancestors_settings fs List.prefix_rfl, ?_, fun p hp q hq => ?_⟩
    · cases home? with
      | none => exact .nil
      | some home => exact (List.pairwise_singleton _ _).filter _
    · have hother := (List.mem_filter.1 hq).2
      rw [Bool.and_eq_true, List.all_eq_true] at hother
      rw [Path.same_comm]
      simpa using hother.2 p hp
  · have hprefix : before ++ [dir] <+: start.ancestors := ⟨after, by simp [hdirs]⟩
    rw [discover_of_first_root hdirs hbefore hroot]
    exact pairwise_ancestors_settings fs hprefix

/-- The ancestors of a start have the initial segments of its names, the longest first.  The files
that apply are those of the ancestors up to the first root, and the global file behind them if there
is no root and the file is not among them.  No path is listed twice, nor any that leads to a
directory, and a file with a fault that no root is in front of is listed without being a root. -/
theorem discover_lists (fs : FileSystem) (home? : Option Path) (start : Path) :
    start.ancestors.map Path.names = start.names.inits.reverse ∧
    (∀ before dir after, start.ancestors = before ++ dir :: after →
      (∀ d ∈ before, ¬ HoldsRoot fs d) → HoldsRoot fs dir →
      discover fs home? start = ((before ++ [dir]).map settingsPath).filter fs.isFile ∧
        (discover fs home? start).getLast? = some (settingsPath dir)) ∧
    ((∀ dir ∈ start.ancestors, ¬ HoldsRoot fs dir) →
      discover fs home? start = (start.ancestors.map settingsPath).filter fs.isFile ++
        globalFile fs home? ((start.ancestors.map settingsPath).filter fs.isFile)) ∧
    (discover fs home? start).Pairwise (fun p q => p.same q = false) ∧
    (∀ p, fs.entry? p = .ok .directory → p ∉ discover fs home? start) ∧
    ∀ before dir after e, start.ancestors = before ++ dir :: after →
      (∀ d ∈ before, ¬ HoldsRoot fs d) → Fault fs (settingsPath dir) e →
      settingsPath dir ∈ discover fs home? start ∧ ¬ HoldsRoot fs dir := by
  refine ⟨start.names_ancestors, fun before dir after hdirs hbefore hroot => ?_,
    fun h => discover_of_no_roots h home?, pairwise_discover fs home? start, fun p hdir hp => ?_,
    fun before dir after e hdirs hbefore hfault => ?_⟩
  · refine ⟨discover_of_first_root hdirs hbefore hroot home?, ?_⟩
    rw [discover_of_first_root hdirs hbefore hroot home?]
    simp [hroot.isFile]
  · have hfile := isFile_of_mem_discover hp
    rw [FileSystem.isFile, hdir] at hfile
    cases hfile
  · obtain ⟨more, hmore⟩ := discover_eq_append fs home? start
    have hfile : fs.isFile (settingsPath dir) = true := by
      rcases hfault with h | ⟨h, -⟩ <;> exact FileSystem.isFile_iff.2 ⟨_, h⟩
    refine ⟨?_, ?_⟩
    · rw [hmore, List.mem_append]
      exact Or.inl ((mem_walk_iff fs _ _).2 ⟨dir, ⟨before, after, hdirs, hbefore⟩, rfl, hfile⟩)
    · rintro ⟨text, file, hcontent, hparse, -⟩
      rcases hfault with h | ⟨h, hnone⟩
      · cases hcontent.symm.trans h
      · cases hcontent.symm.trans h
        cases hparse.symm.trans hnone

/-- The root file is listed alone, and the malformed one above it where no root is on the way. -/
theorem discover_lists_rootedFiles :
    discover rootedFiles (some (.ofString "/work")) (.ofString "/work/help") =
        ([.ofString "/work/help"].map settingsPath).filter rootedFiles.isFile ∧
      settingsPath (.ofString "/work") ∈ discover rootedFiles none (.ofString "/work") ∧
      ¬ HoldsRoot rootedFiles (.ofString "/work") := by
  have hhelp : (Path.ofString "/work/help").ancestors =
      [] ++ .ofString "/work/help" :: [.ofString "/work", ⟨true, []⟩] := by decide
  have hwork : (Path.ofString "/work").ancestors = [] ++ .ofString "/work" :: [⟨true, []⟩] := by
    decide
  have hroot : HoldsRoot rootedFiles (.ofString "/work/help") :=
    ⟨"root = true\n", ⟨some true, none⟩, rfl, by decide +kernel, rfl⟩
  have hcontent : rootedFiles.content? (settingsPath (.ofString "/work")) =
      some (.ok "root =\n") := rfl
  have hfault := Fault.malformed hcontent (by decide +kernel)
  exact ⟨((discover_lists rootedFiles _ _).2.1 [] _ _ hhelp (by simp) hroot).1,
    (discover_lists rootedFiles none _).2.2.2.2.2 [] _ _ _ hwork (by simp) hfault⟩

end HelpQuery
