import HelpQuery.Command.Run

/-!
# Precedence of settings

Every setting has its value from the first place that gives one: the option of the run that governs
it, the files from the closest one on, the default.  No place is asked about another setting, so
what comes behind the first place that gives a value has no part in it:

    (o.over (Config.merge files).settings).get k =
      ((o.get? k).or (files.findSome? (·.get? k))).getD (Settings.default.get k)
-/

namespace HelpQuery

/-! ## One setting at a time -/

/-- The nine settings. -/
inductive Setting where
  | fields
  | namedOnly
  | defaultField
  | fieldBoost
  | defaultFieldBoost
  | stemmer
  | stopWords
  | improveRanking
  | phraseBoostFactor
  deriving DecidableEq, Repr

/-- What the values of a setting are. -/
abbrev Setting.Value : Setting → Type
  | fields => List String
  | defaultField | stemmer => String
  | namedOnly | stopWords | improveRanking => Bool
  | fieldBoost | defaultFieldBoost | phraseBoostFactor => Single

/-- The value of a setting. -/
def Settings.get (s : Settings) : (k : Setting) → k.Value
  | .fields => s.fields
  | .namedOnly => s.namedOnly
  | .defaultField => s.defaultField
  | .fieldBoost => s.fieldBoost
  | .defaultFieldBoost => s.defaultFieldBoost
  | .stemmer => s.stemmer
  | .stopWords => s.stopWords
  | .improveRanking => s.improveRanking
  | .phraseBoostFactor => s.phraseBoostFactor

/-- The value a layer sets; an empty list of fields is one. -/
def Layer.get? (l : Layer) : (k : Setting) → Option k.Value
  | .fields => l.fields
  | .namedOnly => l.namedOnly
  | .defaultField => l.defaultField
  | .fieldBoost => l.fieldBoost
  | .defaultFieldBoost => l.defaultFieldBoost
  | .stemmer => l.stemmer
  | .stopWords => l.stopWords
  | .improveRanking => l.improveRanking
  | .phraseBoostFactor => l.phraseBoostFactor

/-- The value the options of a run set; an empty list of fields is none, and a switch that is not
given says nothing. -/
def Overrides.get? (o : Overrides) : (k : Setting) → Option k.Value
  | .fields => if o.fields = [] then none else some o.fields
  | .namedOnly => if o.namedOnly then some true else none
  | .stemmer => o.stemmer?
  | .stopWords => if o.keepStopWords then some false else none
  | .improveRanking => if o.plainRanking then some false else none
  | .defaultField | .fieldBoost | .defaultFieldBoost | .phraseBoostFactor => none

/-- The value a file sets; one without a table of settings sets none. -/
def LoadedFile.get? (f : LoadedFile) (k : Setting) : Option k.Value :=
  f.file.search?.bind (·.get? k)

/-! ## One place over another -/

theorem Layer.get_over (l : Layer) (s : Settings) (k : Setting) :
    (l.over s).get k = (l.get? k).getD (s.get k) := by
  cases k <;> rfl

theorem Overrides.get_over (o : Overrides) (s : Settings) (k : Setting) :
    (o.over s).get k = (o.get? k).getD (s.get k) := by
  cases k with
  | fields =>
    show (if o.fields = [] then s.fields else o.fields) = _
    rw [Overrides.get?]
    split <;> rfl
  | namedOnly =>
    show (o.namedOnly || s.namedOnly) = _
    rw [Overrides.get?]
    cases o.namedOnly <;> rfl
  | stopWords =>
    show (!o.keepStopWords && s.stopWords) = _
    rw [Overrides.get?]
    cases o.keepStopWords <;> rfl
  | improveRanking =>
    show (!o.plainRanking && s.improveRanking) = _
    rw [Overrides.get?]
    cases o.plainRanking <;> rfl
  | stemmer | defaultField | fieldBoost | defaultFieldBoost | phraseBoostFactor => rfl

/-- Among files, the first that sets a setting decides. -/
theorem Config.get_merge (files : List LoadedFile) (k : Setting) :
    (Config.merge files).settings.get k =
      (files.findSome? (·.get? k)).getD (Settings.default.get k) := by
  induction files with
  | nil => rfl
  | cons f rest ih =>
    show (Settings.ofLayers ((f :: rest).filterMap (·.file.search?))).get k = _
    rw [List.filterMap_cons, List.findSome?_cons]
    cases hsearch : f.file.search? with
    | none =>
      have hf : f.get? k = none := by rw [LoadedFile.get?, hsearch]; rfl
      rw [hf]
      exact ih
    | some l =>
      have hf : f.get? k = l.get? k := by rw [LoadedFile.get?, hsearch]; rfl
      show (l.over (Config.merge rest).settings).get k = _
      rw [Layer.get_over, ih, hf]
      cases l.get? k with
      | none => rfl
      | some v => rfl

/-! ## All places -/

/-- The first file that gives a value hides the files behind it. -/
theorem findSome?_behind {α β : Type} {f : α → Option β} (before : List α) {x : α}
    (after after' : List α) (hx : (f x).isSome = true) :
    (before ++ x :: after).findSome? f = (before ++ x :: after').findSome? f := by
  obtain ⟨v, hv⟩ := Option.isSome_iff_exists.1 hx
  simp [List.findSome?_append, hv]

/-- Each of the nine settings has the value its option gives, else that of the first file which
sets it, else its default.  So it is the same under options and files that say the same about it,
whatever they say about others, and whatever files follow one that sets it. -/
theorem get_over_merge (k : Setting) :
    (∀ o files, (Overrides.over o (Config.merge files).settings).get k =
      ((o.get? k).or (files.findSome? (·.get? k))).getD (Settings.default.get k)) ∧
    (∀ o o' files files', Overrides.get? o k = Overrides.get? o' k →
      List.map (LoadedFile.get? · k) files = List.map (LoadedFile.get? · k) files' →
      (o.over (Config.merge files).settings).get k =
        (o'.over (Config.merge files').settings).get k) ∧
    (∀ o before file after after', (LoadedFile.get? file k).isSome = true →
      (Overrides.over o (Config.merge (before ++ file :: after)).settings).get k =
        (o.over (Config.merge (before ++ file :: after')).settings).get k) := by
  have hvalue : ∀ o files, (Overrides.over o (Config.merge files).settings).get k =
      ((o.get? k).or (files.findSome? (·.get? k))).getD (Settings.default.get k) := by
    intro o files
    rw [Overrides.get_over, Config.get_merge]
    cases o.get? k with
    | none => rfl
    | some v => rfl
  refine ⟨hvalue, ?_, ?_⟩
  · intro o o' files files' ho hfiles
    have hfirst : files.findSome? (·.get? k) = files'.findSome? (·.get? k) := by
      have hid := congrArg (List.findSome? id) hfiles
      rw [List.findSome?_map, List.findSome?_map] at hid
      exact hid
    rw [hvalue, hvalue, ho, hfirst]
  · intro o before file after after' hfile
    rw [hvalue, hvalue, findSome?_behind before after after' hfile]

/-- Sets the fields to none at all. -/
def noFieldsFile : LoadedFile :=
  ⟨.ofString "/work/help/.hq.toml",
    ⟨none, some ⟨some [], none, none, none, none, none, none, none, none⟩⟩⟩

/-- Sets two fields and keeps stop words. -/
def twoFieldsFile : LoadedFile :=
  ⟨.ofString "/work/.hq.toml",
    ⟨some true, some ⟨some ["title", "summary"], none, none, none, none, none, some false, none,
      none⟩⟩⟩

/-- Has no table of settings. -/
def bareFile : LoadedFile := ⟨.ofString "/work/help/java/.hq.toml", ⟨none, none⟩⟩

/-- The closest file that names fields names none, so those of the file behind it are hidden,
while options that only name a language leave stop words to the files. -/
theorem get_over_merge_noFields :
    ((Overrides.over ⟨[], false, some "german", false, false⟩
        (Config.merge ([bareFile] ++ noFieldsFile :: [twoFieldsFile, bareFile])).settings).get
          .fields =
      (Overrides.over ⟨[], false, some "german", false, false⟩
        (Config.merge ([bareFile] ++ noFieldsFile :: [])).settings).get .fields) ∧
    (Overrides.over ⟨[], false, some "german", false, false⟩
        (Config.merge [bareFile, twoFieldsFile]).settings).get .stopWords =
      (Overrides.over ⟨["title"], true, none, false, false⟩
        (Config.merge [noFieldsFile, twoFieldsFile]).settings).get .stopWords :=
  ⟨(get_over_merge .fields).2.2 _ [bareFile] noFieldsFile [twoFieldsFile, bareFile] [] rfl,
    (get_over_merge .stopWords).2.1 _ _ [bareFile, twoFieldsFile] [noFieldsFile, twoFieldsFile]
      rfl rfl⟩

end HelpQuery
