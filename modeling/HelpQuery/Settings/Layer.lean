import HelpQuery.Settings.Basic

/-!
# Layers of settings

A settings file sets some of the nine settings.  Files are layered, the closest first: each setting
has the value of the first file that sets it, or its default.
-/

namespace HelpQuery

/-- The settings one file sets. -/
structure Layer where
  fields : Option (List String)
  namedOnly : Option Bool
  defaultField : Option String
  fieldBoost : Option Single
  defaultFieldBoost : Option Single
  stemmer : Option String
  stopWords : Option Bool
  improveRanking : Option Bool
  phraseBoostFactor : Option Single
  deriving DecidableEq

/-- What one settings file says. -/
structure SettingsFile where
  /-- Whether files further out are to be ignored. -/
  root? : Option Bool
  search? : Option Layer
  deriving DecidableEq

/-- The settings with those of a layer in place of the ones it sets. -/
def Layer.over (l : Layer) (s : Settings) : Settings where
  fields := l.fields.getD s.fields
  namedOnly := l.namedOnly.getD s.namedOnly
  defaultField := l.defaultField.getD s.defaultField
  fieldBoost := l.fieldBoost.getD s.fieldBoost
  defaultFieldBoost := l.defaultFieldBoost.getD s.defaultFieldBoost
  stemmer := l.stemmer.getD s.stemmer
  stopWords := l.stopWords.getD s.stopWords
  improveRanking := l.improveRanking.getD s.improveRanking
  phraseBoostFactor := l.phraseBoostFactor.getD s.phraseBoostFactor

/-- The settings under layers, the closest first. -/
def Settings.ofLayers (layers : List Layer) : Settings :=
  layers.foldr Layer.over Settings.default

end HelpQuery
