import HelpQuery.Settings.Basic
import HelpQuery.Toml.Printer

/-!
# Writing settings

The settings as the text of a settings file that sets all nine of them.
-/

namespace HelpQuery

/-- A boost as a TOML float. -/
def Single.toml (x : Single) : String := Layout.settings.write x

def Settings.toToml (s : Settings) : String :=
  String.join
    ["[search]\n",
     Toml.writeLine "fields" (Toml.writeTexts s.fields),
     Toml.writeLine "field_search_only" (Toml.writeBoolean s.namedOnly),
     Toml.writeLine "default_field" (Toml.writeText s.defaultField),
     Toml.writeLine "field_boost" s.fieldBoost.toml,
     Toml.writeLine "default_field_boost" s.defaultFieldBoost.toml,
     Toml.writeLine "stemmer" (Toml.writeText s.stemmer),
     Toml.writeLine "stop_words" (Toml.writeBoolean s.stopWords),
     Toml.writeLine "improve_ranking" (Toml.writeBoolean s.improveRanking),
     Toml.writeLine "phrase_boost_factor" s.phraseBoostFactor.toml]

end HelpQuery
