import HelpQuery.Files.Config
import HelpQuery.Proofs.Fallible
import HelpQuery.Proofs.WrittenDocuments
import HelpQuery.Proofs.WrittenNumbers

/-!
# Written settings

Settings are written as a section with a line for each of them, so a file with this text sets all
nine and says nothing else:

    SettingsFile.parse? s.toToml = some ⟨none, some (.ofSettings s.reread)⟩

Alone it gives the settings it was written for, if their boosts are what their numerals are rounded
to; nothing is asked of their texts, nor of the number of fields.  One boost of either sign is not
what its numeral is rounded to.
-/

namespace HelpQuery

/-! ## The lines of settings -/

namespace Settings

/-- Whether the boosts of settings are what their written forms are rounded to. -/
structure Recovered (s : Settings) : Prop where
  fieldBoost : s.fieldBoost.Recovered
  defaultFieldBoost : s.defaultFieldBoost.Recovered
  phraseBoostFactor : s.phraseBoostFactor.Recovered

/-- The settings with the boosts that are read where theirs were written. -/
def reread (s : Settings) : Settings where
  fields := s.fields
  namedOnly := s.namedOnly
  defaultField := s.defaultField
  fieldBoost := s.fieldBoost.reread
  defaultFieldBoost := s.defaultFieldBoost.reread
  stemmer := s.stemmer
  stopWords := s.stopWords
  improveRanking := s.improveRanking
  phraseBoostFactor := s.phraseBoostFactor.reread

theorem Recovered.reread_eq {s : Settings} (h : s.Recovered) : s.reread = s := by
  rw [reread, s.fieldBoost.recovered_iff.1 h.fieldBoost,
    s.defaultFieldBoost.recovered_iff.1 h.defaultFieldBoost,
    s.phraseBoostFactor.recovered_iff.1 h.phraseBoostFactor]

/-- The lines that settings are written on, with what is read of them. -/
def lines (s : Settings) : List Toml.Line :=
  [⟨"fields", Toml.writeTexts s.fields, .array (s.fields.map .string)⟩,
   ⟨"field_search_only", Toml.writeBoolean s.namedOnly, .boolean s.namedOnly⟩,
   ⟨"default_field", Toml.writeText s.defaultField, .string s.defaultField⟩,
   ⟨"field_boost", s.fieldBoost.toml, .float s.fieldBoost.stored⟩,
   ⟨"default_field_boost", s.defaultFieldBoost.toml, .float s.defaultFieldBoost.stored⟩,
   ⟨"stemmer", Toml.writeText s.stemmer, .string s.stemmer⟩,
   ⟨"stop_words", Toml.writeBoolean s.stopWords, .boolean s.stopWords⟩,
   ⟨"improve_ranking", Toml.writeBoolean s.improveRanking, .boolean s.improveRanking⟩,
   ⟨"phrase_boost_factor", s.phraseBoostFactor.toml, .float s.phraseBoostFactor.stored⟩]

/-- What a table holds for settings. -/
def entries (s : Settings) : List (String × Toml) := s.lines.map Toml.Line.entry

theorem toToml_eq (s : Settings) :
    s.toToml = "[" ++ "search" ++ "]\n" ++ String.join (s.lines.map Toml.Line.text) := by
  rw [toToml, String.join_cons]
  rfl

/-- The keys of the lines are those of the settings, in their order. -/
theorem map_key_lines (s : Settings) : s.lines.map Toml.Line.key = Layer.keys := rfl

end Settings

theorem Single.readsAs_toml (x : Single) : Toml.ReadsAs x.toml.toList (.float x.stored) :=
  Toml.readsAs_scalar x.isScalarChar_toml.1 x.isScalarChar_toml.2 x.scalar?_toml

/-- What is written on the lines of settings is read back. -/
theorem Settings.proper_lines (s : Settings) : ∀ l ∈ s.lines, l.Proper := by
  have hbare : ∀ key ∈ Layer.keys, Toml.IsBareKey key.toList := by decide
  have hreads : ∀ l ∈ s.lines, Toml.ReadsAs l.written.toList l.value := by
    intro l hl
    simp only [lines, List.mem_cons, List.not_mem_nil, or_false] at hl
    rcases hl with rfl | rfl | rfl | rfl | rfl | rfl | rfl | rfl | rfl
    · exact Toml.readsAs_writeTexts s.fields
    · exact Toml.readsAs_writeBoolean s.namedOnly
    · exact Toml.readsAs_writeText s.defaultField
    · exact s.fieldBoost.readsAs_toml
    · exact s.defaultFieldBoost.readsAs_toml
    · exact Toml.readsAs_writeText s.stemmer
    · exact Toml.readsAs_writeBoolean s.stopWords
    · exact Toml.readsAs_writeBoolean s.improveRanking
    · exact s.phraseBoostFactor.readsAs_toml
  intro l hl
  have hkey : l.key ∈ Layer.keys := s.map_key_lines ▸ List.mem_map_of_mem hl
  exact ⟨hbare l.key hkey, hreads l hl⟩

theorem Settings.parse_toToml (s : Settings) :
    Toml.parse s.toToml = some [("search", .table s.entries)] := by
  have hdistinct : (s.lines.map Toml.Line.key).Nodup := by
    rw [s.map_key_lines]
    decide
  rw [s.toToml_eq]
  exact Toml.parse_section (by decide) s.proper_lines hdistinct

/-! ## The settings of a table -/

/-- A layer that sets everything. -/
def Layer.ofSettings (s : Settings) : Layer where
  fields := some s.fields
  namedOnly := some s.namedOnly
  defaultField := some s.defaultField
  fieldBoost := some s.fieldBoost
  defaultFieldBoost := some s.defaultFieldBoost
  stemmer := some s.stemmer
  stopWords := some s.stopWords
  improveRanking := some s.improveRanking
  phraseBoostFactor := some s.phraseBoostFactor

theorem Layer.ofSettings_over (s t : Settings) : (Layer.ofSettings s).over t = s := rfl

theorem Toml.readableItems_map_string (texts : List String) :
    readableItems (texts.map .string) = true := by
  induction texts with
  | nil => rfl
  | cons text texts ih => exact ih

theorem Toml.mapM_string? (texts : List String) :
    (texts.map Toml.string).mapM string? = some texts :=
  mapM_map_eq_some fun _ _ => rfl

theorem Settings.readableEntries_entries (s : Settings) :
    Toml.readableEntries s.entries = true := by
  have hfields := Toml.readableItems_map_string s.fields
  simp [entries, lines, Toml.Line.entry, Toml.readableEntries, Toml.readable, hfields]

theorem Settings.ofEntries?_entries (s : Settings) :
    Layer.ofEntries? Toml.names? s.entries = some (.ofSettings s.reread) := by
  have hfields : setting? Toml.names? s.entries "fields" = some (some s.fields) :=
    congrArg (Option.map some) (Toml.mapM_string? s.fields)
  have hfieldBoost : setting? Toml.single? s.entries "field_boost" =
      some (some s.fieldBoost.reread) :=
    congrArg (some ∘ some) s.fieldBoost.convert_stored
  have hdefaultFieldBoost : setting? Toml.single? s.entries "default_field_boost" =
      some (some s.defaultFieldBoost.reread) :=
    congrArg (some ∘ some) s.defaultFieldBoost.convert_stored
  have hphraseBoostFactor : setting? Toml.single? s.entries "phrase_boost_factor" =
      some (some s.phraseBoostFactor.reread) :=
    congrArg (some ∘ some) s.phraseBoostFactor.convert_stored
  unfold Layer.ofEntries?
  rw [s.readableEntries_entries, hfields, hfieldBoost, hdefaultFieldBoost, hphraseBoostFactor]
  rfl

/-- The text of settings is that of a file which sets all of them and says nothing else. -/
theorem Settings.parse?_toToml (s : Settings) :
    SettingsFile.parse? s.toToml = some ⟨none, some (.ofSettings s.reread)⟩ := by
  have hsearch : setting? Layer.ofToml? [("search", .table s.entries)] "search" =
      some (some (.ofSettings s.reread)) :=
    congrArg (Option.map some) s.ofEntries?_entries
  rw [SettingsFile.parse?, s.parse_toToml, Option.bind_some, SettingsFile.ofEntries?, hsearch]
  rfl

theorem Settings.Recovered.parse?_toToml {s : Settings} (h : s.Recovered) :
    SettingsFile.parse? s.toToml = some ⟨none, some (.ofSettings s)⟩ := by
  rw [s.parse?_toToml, h.reread_eq]

/-! ## Reloading -/

/-- Settings that are written to a file are loaded from it again, all nine of them, and written in
the same way once more. -/
theorem Settings.reload_toToml {s : Settings} (h : s.Recovered) (path : Path) :
    ∃ file, LoadedFile.parse path s.toToml = .ok file ∧ file.file.root? = none ∧
      (Config.merge [file]).settings = s ∧ (Config.merge [file]).settings.toToml = s.toToml := by
  have hparse : LoadedFile.parse path s.toToml = .ok ⟨path, ⟨none, some (.ofSettings s)⟩⟩ := by
    rw [LoadedFile.parse, h.parse?_toToml]
  have hmerge : (Config.merge [⟨path, ⟨none, some (.ofSettings s)⟩⟩]).settings = s :=
    Layer.ofSettings_over s Settings.default
  exact ⟨_, hparse, rfl, hmerge, congrArg Settings.toToml hmerge⟩

/-- Texts for each of the forms, with marks and controls at either end, and boosts that are no whole
numbers. -/
def awkwardSettings : Settings where
  fields := ["", "it's \"so\"", "\n\"\"\"\r\x7f'''", "\\\"\"", "'\n''"]
  namedOnly := true
  defaultField := "\r\n\t\"\"\"\"\"\u0000é"
  fieldBoost := .ofFraction false 1 10
  defaultFieldBoost := .ofFraction true 0 1
  stemmer := "\\'\\"
  stopWords := false
  improveRanking := true
  phraseBoostFactor := .infinite true

theorem reload_awkwardSettings :
    awkwardSettings.Recovered ∧
      ∃ file, LoadedFile.parse (.ofString "/work/.hq.toml") awkwardSettings.toToml = .ok file ∧
        file.file.root? = none ∧ (Config.merge [file]).settings = awkwardSettings ∧
        (Config.merge [file]).settings.toToml = awkwardSettings.toToml := by
  have hrecovered : awkwardSettings.Recovered :=
    ⟨by decide +kernel, by decide +kernel, by decide +kernel⟩
  exact ⟨hrecovered, Settings.reload_toToml hrecovered (.ofString "/work/.hq.toml")⟩

/-! ## Boosts -/

/-- The three boosts of settings. -/
def Settings.boosts : List (Settings → Single) :=
  [Settings.fieldBoost, Settings.defaultFieldBoost, Settings.phraseBoostFactor]

theorem Settings.parse_merge_toToml (s : Settings) (path : Path) :
    ∃ file, LoadedFile.parse path s.toToml = .ok file ∧
      (Config.merge [file]).settings = s.reread := by
  refine ⟨⟨path, ⟨none, some (.ofSettings s.reread)⟩⟩, ?_, ?_⟩
  · rw [LoadedFile.parse, s.parse?_toToml]
  · exact Layer.ofSettings_over s.reread Settings.default

/-- A boost that is written to a file is loaded from it again, unless it is the one, of either sign,
whose digits are too near to the end of its neighbourhood; that one is loaded as the next one. -/
theorem Settings.reload_boosts (s : Settings) (path : Path) :
    ∃ file, LoadedFile.parse path s.toToml = .ok file ∧ ∀ boost ∈ Settings.boosts,
      (boost (Config.merge [file]).settings = boost s ↔
        ∀ negative, boost s ≠ .finite negative .unsteady) ∧
      ∀ negative, boost s = .finite negative .unsteady →
        boost (Config.merge [file]).settings = .finite negative .unsteadyNext := by
  obtain ⟨file, hparse, hmerge⟩ := s.parse_merge_toToml path
  have hreread : ∀ boost ∈ Settings.boosts, boost s.reread = (boost s).reread := by
    simp [Settings.boosts, Settings.reread]
  refine ⟨file, hparse, fun boost hboost => ?_⟩
  rw [hmerge, hreread boost hboost]
  refine ⟨(boost s).reread_eq_iff, fun negative heq => ?_⟩
  rw [heq, Single.reread, if_pos rfl]

/-- Default settings but for the boost of named fields, 7.038531e-26. -/
def unsteadySettings : Settings := { Settings.default with fieldBoost := .finite false .unsteady }

theorem not_reload_unsteadySettings :
    ¬ ∀ s : Settings, (∀ boost ∈ Settings.boosts, (boost s).isFinite = true) → ∀ path : Path,
      ∃ file, LoadedFile.parse path s.toToml = .ok file ∧
        ∀ boost ∈ Settings.boosts, boost (Config.merge [file]).settings = boost s := by
  intro hreload
  obtain ⟨file, hparse, hboosts⟩ :=
    hreload unsteadySettings (by decide +kernel) (.ofString "/work/.hq.toml")
  obtain ⟨file', hparse', hmerge⟩ :=
    unsteadySettings.parse_merge_toToml (.ofString "/work/.hq.toml")
  obtain rfl : file = file' := Except.ok.inj (hparse.symm.trans hparse')
  have hboost := hboosts Settings.fieldBoost (by simp [Settings.boosts])
  rw [hmerge] at hboost
  exact absurd hboost (by decide +kernel)

end HelpQuery
