import HelpQuery.Proofs.Locations
import HelpQuery.Proofs.WrittenDocuments
import HelpQuery.Settings.Template

/-!
# Settings files that say nothing

A file of comments and empty lines says nothing, as the settings template does:

    SettingsFile.parse? settingsTemplate = some ⟨none, none⟩

Where files that say nothing are added, the walk still ends where it did, and the files that were
loaded still are, in their order, so no settings change:

    discover fs home? start = (discover fs' home? start).filter fs.isFile
-/

namespace HelpQuery

/-! ## Comments -/

namespace Toml

theorem skipLines?_comment {line : List Char} (h : ∀ c ∈ line, isTextChar c = true)
    (rest : List Char) : skipLines? true (line ++ '\n' :: rest) = skipLines? false rest := by
  induction line with
  | nil => rw [List.nil_append, skipLines?, if_pos rfl]
  | cons c line ih =>
    obtain ⟨hc, hline⟩ := List.forall_mem_cons.1 h
    have hfeed : c ≠ '\n' := ne_of_kind hc (by decide)
    have hreturn : c ≠ '\r' := ne_of_kind hc (by decide)
    rw [List.cons_append, skipLines?, if_neg hfeed, if_neg hreturn, if_pos rfl, if_pos hc, ih hline]

/-- A text that is skipped to its end is an empty document. -/
theorem parse_of_skipLines? {text : String} (h : skipLines? false text.toList = some []) :
    parse text = some [] := by
  have hmark : ∀ r, text.toList ≠ '\uFEFF' :: r := by
    intro r htext
    rw [htext, skipLines?_cons r (by decide)] at h
    cases h
  have hdocument : document? (text.toList.length + 1) text.toList = some ⟨[], []⟩ := by
    rw [document?, h]
    rfl
  unfold parse
  split
  · next r htext => exact absurd htext (hmark r)
  · show (document? (text.toList.length + 1) text.toList).bind _ = _
    rw [hdocument]
    rfl

end Toml

/-- A line that is commented out is skipped. -/
theorem skipLines?_commentedOut {line : String} (h : ∀ c ∈ line.toList, Toml.isTextChar c = true)
    (rest : List Char) :
    Toml.skipLines? false ((commentedOut line).toList ++ '\n' :: rest) =
      Toml.skipLines? false rest := by
  have hcomment : ∀ cs : List Char, (∀ c ∈ cs, Toml.isTextChar c = true) →
      Toml.skipLines? false ('#' :: cs ++ '\n' :: rest) = Toml.skipLines? false rest := by
    intro cs hcs
    rw [List.cons_append, Toml.skipLines?, ← Toml.skipLines?_comment hcs rest]
    rfl
  unfold commentedOut
  split
  · next hkept =>
    rw [Bool.or_eq_true, String.isEmpty_iff, String.startsWith_string_iff] at hkept
    rcases hkept with rfl | ⟨cs, hcs⟩
    · exact Toml.skipLines?_lineFeed rest
    · rw [← hcs] at h ⊢
      exact hcomment cs fun c hc => h c (List.mem_append_right _ hc)
  · rw [String.toList_append]
    refine hcomment (' ' :: line.toList) (List.forall_mem_cons.2 ⟨by decide, h⟩)

/-- Lines that are all commented out say nothing. -/
theorem parse?_commentedOut {lines : List String}
    (h : ∀ line ∈ lines, ∀ c ∈ line.toList, Toml.isTextChar c = true) :
    SettingsFile.parse? (String.join (lines.map fun line => commentedOut line ++ "\n")) =
      some ⟨none, none⟩ := by
  have hskip : Toml.skipLines? false
      (String.join (lines.map fun line => commentedOut line ++ "\n")).toList = some [] := by
    rw [String.toList_join, List.flatMap_map]
    induction lines with
    | nil => rfl
    | cons line lines ih =>
      obtain ⟨hline, hlines⟩ := List.forall_mem_cons.1 h
      have hfeed : (commentedOut line ++ "\n").toList = (commentedOut line).toList ++ ['\n'] :=
        String.toList_append
      rw [List.flatMap_cons, hfeed, List.append_assoc, List.singleton_append,
        skipLines?_commentedOut hline, ih hlines]
  rw [SettingsFile.parse?, Toml.parse_of_skipLines? hskip]
  rfl

theorem isTextChar_ofList {cs : List Char} (h : cs.all Toml.isTextChar = true) :
    ∀ c ∈ (String.ofList cs).toList, Toml.isTextChar c = true := by
  rw [String.toList_ofList]
  exact List.all_eq_true.1 h

theorem parse?_settingsTemplate : SettingsFile.parse? settingsTemplate = some ⟨none, none⟩ := by
  refine parse?_commentedOut ?_
  simp only [exampleLines, List.forall_mem_cons]
  and_intros
  all_goals
    first
    | exact isTextChar_ofList (by decide +kernel)
    | exact List.forall_mem_nil _

/-! ## Loading file by file -/

/-- The settings with those of a file in place of the ones it sets. -/
def SettingsFile.over (file : SettingsFile) (s : Settings) : Settings :=
  match file.search? with
  | some layer => layer.over s
  | none => s

theorem Config.settings_merge_cons (file : LoadedFile) (files : List LoadedFile) :
    (merge (file :: files)).settings = file.file.over (merge files).settings := by
  unfold merge SettingsFile.over
  rw [List.filterMap_cons]
  cases file.file.search? <;> rfl

/-- The first file goes over what the others are loaded to. -/
theorem Config.settings_loadFiles_cons (fs : FileSystem) (p : Path) (paths : List Path) :
    (loadFiles fs (p :: paths)).map settings =
      (LoadedFile.read fs p).bind fun file =>
        ((loadFiles fs paths).map settings).map file.file.over := by
  unfold loadFiles
  rw [List.mapM_cons]
  cases LoadedFile.read fs p with
  | error e => rfl
  | ok file =>
    cases paths.mapM (LoadedFile.read fs) with
    | error e => rfl
    | ok files => exact congrArg Except.ok (settings_merge_cons file files)

/-! ## Files that say nothing -/

/-- The second file system has the files of the first and others that say nothing. -/
structure AddsSilently (fs fs' : FileSystem) : Prop where
  keeps : ∀ {p content}, fs.content? p = some content → fs'.content? p = some content
  silent : ∀ {p content}, fs'.content? p = some content → fs.content? p = none →
    ∃ text, content = .ok text ∧ SettingsFile.parse? text = some ⟨none, none⟩
  /-- No file is added under another path of one that was there. -/
  apart : ∀ {p q}, p.same q = true → fs.isFile p = true → fs'.isFile q = true →
    fs.isFile q = true

/-- A file that says nothing may be put where nothing stands. -/
theorem addsSilently_put {fs : FileSystem} {loc : Location} {text : String}
    (hat : fs.at? loc = none) (htext : SettingsFile.parse? text = some ⟨none, none⟩) :
    AddsSilently fs (fs.put loc (.file (.ok text))) where
  keeps h := (FileSystem.content?_put hat _ _ _).2 (Or.inl h)
  silent h hnone := by
    rcases (FileSystem.content?_put hat _ _ _).1 h with h | ⟨-, rfl⟩
    · rw [hnone] at h
      cases h
    · exact ⟨text, rfl, htext⟩
  apart {p q} hsame hp hq := by
    obtain ⟨content, hq⟩ := FileSystem.isFile_iff.1 hq
    rcases (FileSystem.content?_put hat _ _ _).1 hq with h | ⟨hlocate, -⟩
    · exact FileSystem.isFile_iff.2 ⟨content, h⟩
    · obtain ⟨content, hp⟩ := FileSystem.isFile_iff.1 hp
      obtain ⟨l, hl, hfile⟩ := (fs.content?_eq_some_iff p content).1 hp
      rw [FileSystem.locate_same hsame hl hlocate, hat] at hfile
      cases hfile

namespace AddsSilently

variable {fs fs' : FileSystem}

theorem isFile (h : AddsSilently fs fs') {p : Path} (hp : fs.isFile p = true) :
    fs'.isFile p = true := by
  obtain ⟨content, hcontent⟩ := FileSystem.isFile_iff.1 hp
  exact FileSystem.isFile_iff.2 ⟨content, h.keeps hcontent⟩

/-- No root is added. -/
theorem holdsRoot_iff (h : AddsSilently fs fs') (dir : Path) :
    HoldsRoot fs dir ↔ HoldsRoot fs' dir := by
  constructor
  · rintro ⟨text, file, hcontent, hroot⟩
    exact ⟨text, file, h.keeps hcontent, hroot⟩
  · rintro ⟨text, file, hcontent, hparse, hroot⟩
    cases hold : fs.content? (settingsPath dir) with
    | some content =>
      have hsame : some content = some (.ok text) := (h.keeps hold).symm.trans hcontent
      exact ⟨text, file, hold.trans hsame, hparse, hroot⟩
    | none =>
      obtain ⟨text', ⟨⟩, hsilent⟩ := h.silent hcontent hold
      cases hsilent.symm.trans hparse
      cases hroot

/-- The walk ends where it did and finds the files it found among the others. -/
theorem walk_eq (h : AddsSilently fs fs') (dirs : List Path) :
    walk fs dirs = ((walk fs' dirs).1.filter fs.isFile, (walk fs' dirs).2) := by
  induction dirs with
  | nil => rfl
  | cons first rest ih =>
    by_cases hroot : HoldsRoot fs first
    · rw [walk_cons_root rest hroot, walk_cons_root rest ((h.holdsRoot_iff first).1 hroot)]
      simp [hroot.isFile]
    · have hkept : [settingsPath first].filter fs.isFile =
          ([settingsPath first].filter fs'.isFile).filter fs.isFile := by
        rw [List.filter_filter]
        refine List.filter_congr fun p _ => ?_
        cases hp : fs.isFile p with
        | false => rw [Bool.false_and]
        | true => rw [h.isFile hp, Bool.and_true]
      rw [walk_cons_of_not_root rest hroot,
        walk_cons_of_not_root rest (mt (h.holdsRoot_iff first).2 hroot), ih, hkept,
        List.filter_append]

/-- The global file was found on the walk if it is now, and was there. -/
theorem unfound_iff (h : AddsSilently fs fs') (dirs : List Path) {g : Path}
    (hg : fs.isFile g = true) :
    (∀ p ∈ (walk fs dirs).1, g.same p = false) ↔ ∀ p ∈ (walk fs' dirs).1, g.same p = false := by
  rw [h.walk_eq]
  constructor
  · intro hfound p hp
    cases hsame : g.same p with
    | false => rfl
    | true =>
      obtain ⟨-, -, -, hfile⟩ := (mem_walk_iff fs' dirs p).1 hp
      have hold := hfound p (List.mem_filter.2 ⟨hp, h.apart hsame hg hfile⟩)
      rw [hsame] at hold
      cases hold
  · intro hfound p hp
    exact hfound p (List.mem_filter.1 hp).1

/-- The files that applied are those among the ones that apply now that were there. -/
theorem discover_eq (h : AddsSilently fs fs') (home? : Option Path) (start : Path) :
    discover fs home? start = (discover fs' home? start).filter fs.isFile := by
  have hwalk : (walk fs start.ancestors).1 = (walk fs' start.ancestors).1.filter fs.isFile :=
    congrArg Prod.fst (h.walk_eq start.ancestors)
  have hroots : (∃ dir ∈ start.ancestors, HoldsRoot fs dir) ↔
      ∃ dir ∈ start.ancestors, HoldsRoot fs' dir := by
    simp only [h.holdsRoot_iff]
  by_cases hroot : ∃ dir ∈ start.ancestors, HoldsRoot fs dir
  · rw [discover_of_root hroot, discover_of_root (hroots.1 hroot), hwalk]
  · cases home? with
    | none => rw [discover_noHome, discover_noHome, hwalk]
    | some home =>
      rw [discover_of_no_root hroot, discover_of_no_root (mt hroots.2 hroot), List.filter_append,
        ← hwalk]
      by_cases hglobal : fs.isFile (globalSettings home) = true
      · have hsame := h.unfound_iff start.ancestors hglobal
        simp only [hglobal, h.isFile hglobal, hsame, true_and]
        split <;> simp [hglobal]
      · rw [if_neg (fun hfound => hglobal hfound.1)]
        split <;> simp [hglobal]

/-- Loading files gives the settings the ones among them that were there gave. -/
theorem settings_loadFiles (h : AddsSilently fs fs') {paths : List Path}
    (hfiles : ∀ p ∈ paths, fs'.isFile p = true) :
    (Config.loadFiles fs (paths.filter fs.isFile)).map Config.settings =
      (Config.loadFiles fs' paths).map Config.settings := by
  induction paths with
  | nil => rfl
  | cons p paths ih =>
    obtain ⟨hp, hpaths⟩ := List.forall_mem_cons.1 hfiles
    obtain ⟨content, hcontent⟩ := FileSystem.isFile_iff.1 hp
    rw [Config.settings_loadFiles_cons fs' p]
    cases hold : fs.content? p with
    | some content =>
      have hfile : fs.isFile p = true := FileSystem.isFile_iff.2 ⟨content, hold⟩
      rw [List.filter_cons_of_pos hfile, Config.settings_loadFiles_cons, ih hpaths,
        LoadedFile.read_congr hfile (hold.trans (h.keeps hold).symm)]
    | none =>
      have hfile : ¬ fs.isFile p = true := by
        rw [fs.isFile_eq, hold]
        exact Bool.false_ne_true
      obtain ⟨text, rfl, hsilent⟩ := h.silent hcontent hold
      have hread : LoadedFile.read fs' p = .ok ⟨p, ⟨none, none⟩⟩ := by
        rw [LoadedFile.read, FileSystem.read_of_content? hcontent]
        simp only [LoadedFile.parse, hsilent]
      rw [List.filter_cons_of_neg hfile, ih hpaths, hread]
      cases Config.loadFiles fs' paths <;> rfl

/-- Files that say nothing change no settings, and are in the way of no error. -/
theorem settings_load (h : AddsSilently fs fs') (home? : Option Path) (start : Path) :
    (Config.load fs home? start).map Config.settings =
      (Config.load fs' home? start).map Config.settings := by
  unfold Config.load
  rw [h.discover_eq, h.settings_loadFiles fun p => isFile_of_mem_discover]

end AddsSilently

end HelpQuery
