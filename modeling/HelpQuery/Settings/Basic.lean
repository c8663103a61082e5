import HelpQuery.Query.Compiler

/-!
# Search settings

The nine settings that choose the fields a query is compiled for, the analyzer and the ranking.
-/

namespace HelpQuery

structure Settings where
  /-- Named fields, searched beside the default field. -/
  fields : List String
  /-- Search the named fields only. -/
  namedOnly : Bool
  defaultField : String
  /-- The boost of each named field. -/
  fieldBoost : Single
  defaultFieldBoost : Single
  /-- The name of the analyzer's language. -/
  stemmer : String
  /-- Leave out English stop words. -/
  stopWords : Bool
  /-- Add the whole-query phrases to plain word queries. -/
  improveRanking : Bool
  phraseBoostFactor : Single
  deriving DecidableEq

namespace Settings

/-- The settings in force where nothing is configured. -/
def default : Settings where
  fields := []
  namedOnly := false
  defaultField := FieldSet.defaultName
  fieldBoost := FieldSet.namedBoost
  defaultFieldBoost := FieldSet.defaultBoost
  stemmer := "english"
  stopWords := true
  improveRanking := CompileOptions.default.improveRanking
  phraseBoostFactor := CompileOptions.default.phraseBoostFactor

/-- The fields queries are compiled for. -/
def fieldSet (s : Settings) : Except FieldError FieldSet :=
  FieldSet.withBoosts s.fields s.fieldBoost
    (if s.namedOnly then none else some ⟨s.defaultField, s.defaultFieldBoost⟩)

/-- The options queries are compiled with. -/
def compileOptions (s : Settings) : CompileOptions := ⟨s.improveRanking, s.phraseBoostFactor⟩

end Settings

end HelpQuery
