import HelpQuery.Settings.Basic

/-!
# Warnings about settings

Settings that load fine but probably do not do what was meant.
-/

namespace HelpQuery

inductive Warning where
  /-- A named field is listed again. -/
  | duplicateField (field : String)
  /-- The default field is a named field too. -/
  | defaultFieldNamed (field : String)
  /-- Only named fields are searched, and there are none. -/
  | noSearchableFields
  /-- The whole-query phrase would rank lower than its words. -/
  | weakPhraseBoost (factor : Single)
  /-- The factor has no effect. -/
  | unusedPhraseBoost
  deriving DecidableEq

namespace Warning

def message : Warning → String
  | duplicateField field => "field '" ++ field ++ "' is listed more than once"
  | defaultFieldNamed field => "default field '" ++ field ++ "' is also a named field"
  | noSearchableFields => "field_search_only is set but no fields are named"
  | weakPhraseBoost factor => "phrase_boost_factor " ++ factor.text ++ " is not greater than 1"
  | unusedPhraseBoost => "phrase_boost_factor is set but improve_ranking is off"

end Warning

/-- The names that stand in the list before, in order; `seen` holds those already passed. -/
def repeats (seen : List String) : List String → List String
  | [] => []
  | name :: rest =>
    if name ∈ seen then name :: repeats seen rest else repeats (name :: seen) rest

namespace Settings

/-- Warnings about the fields. -/
def fieldWarnings (s : Settings) : List Warning :=
  (if s.namedOnly ∧ s.fields = [] then [.noSearchableFields] else [])
    ++ (repeats [] s.fields).map .duplicateField
    ++ (if ¬ s.namedOnly ∧ s.defaultField ∈ s.fields then [.defaultFieldNamed s.defaultField]
      else [])

/-- Warnings about the phrase boost factor. -/
def rankingWarnings (s : Settings) : List Warning :=
  if s.improveRanking then
    if s.phraseBoostFactor.le (.ofNat 1) then [.weakPhraseBoost s.phraseBoostFactor] else []
  else if s.phraseBoostFactor.same default.phraseBoostFactor then []
  else [.unusedPhraseBoost]

def warnings (s : Settings) : List Warning := s.fieldWarnings ++ s.rankingWarnings

end Settings

end HelpQuery
