import HelpQuery.Settings.Layer
import HelpQuery.Toml.Parser

/-!
# Reading settings

The settings of a TOML table by their keys.  Keys that name no setting are ignored, but what they
hold has to be readable.  A table of settings may also be written as an array of its values in the
order of the keys; what follows the last of these is not looked at.
-/

namespace HelpQuery

/-! ## Values -/

namespace Toml

def boolean? : Toml → Option Bool
  | boolean b => some b
  | _ => none

def string? : Toml → Option String
  | string s => some s
  | _ => none

/-- A float, rounded to a boost, or an integer of 64 bits, with or without a sign. -/
def single? : Toml → Option Single
  | integer n => if -(twoPow 63 : Int) ≤ n ∧ n < twoPow 64 then some (.ofInt n) else none
  | float x => some (x.convert .single)
  | _ => none

def strings? : Toml → Option (List String)
  | array items => items.mapM string?
  | _ => none

/-- A list of texts, or a single one. -/
def names? : Toml → Option (List String)
  | string s => some [s]
  | v => v.strings?

end Toml

/-- The value of a key that need not be there. -/
def setting? {α : Type} (read : Toml → Option α) (entries : List (String × Toml)) (key : String) :
    Option (Option α) :=
  match entries.lookup key with
  | none => some none
  | some v => (read v).map some

/-! ## Settings -/

namespace Layer

/-- The keys of the settings in their order. -/
def keys : List String :=
  ["fields", "field_search_only", "default_field", "field_boost", "default_field_boost", "stemmer",
   "stop_words", "improve_ranking", "phrase_boost_factor"]

/-- The settings of a readable table; `readFields` reads the named fields. -/
def ofEntries? (readFields : Toml → Option (List String)) (entries : List (String × Toml)) :
    Option Layer := do
  guard (Toml.readableEntries entries)
  return {
    fields := ← setting? readFields entries "fields"
    namedOnly := ← setting? Toml.boolean? entries "field_search_only"
    defaultField := ← setting? Toml.string? entries "default_field"
    fieldBoost := ← setting? Toml.single? entries "field_boost"
    defaultFieldBoost := ← setting? Toml.single? entries "default_field_boost"
    stemmer := ← setting? Toml.string? entries "stemmer"
    stopWords := ← setting? Toml.boolean? entries "stop_words"
    improveRanking := ← setting? Toml.boolean? entries "improve_ranking"
    phraseBoostFactor := ← setting? Toml.single? entries "phrase_boost_factor" }

/-- The settings of a value that stands for a table of settings; a date has none. -/
def ofToml? : Toml → Option Layer
  | .table entries => ofEntries? Toml.names? entries
  | .array items => ofEntries? Toml.names? (keys.zip items)
  | .dateTime _ => ofEntries? Toml.names? []
  | _ => none

end Layer

namespace SettingsFile

/-- What a table says; besides the settings themselves all of it has to be readable. -/
def ofEntries? (entries : List (String × Toml)) : Option SettingsFile := do
  guard (Toml.readableEntries (entries.filter (·.1 ≠ "search")))
  return {
    root? := ← setting? Toml.boolean? entries "root"
    search? := ← setting? Layer.ofToml? entries "search" }

/-- What the text of a settings file says, if it is well-formed. -/
def parse? (text : String) : Option SettingsFile := (Toml.parse text).bind ofEntries?

end SettingsFile

/-- The settings of a text whose top table is the table of settings itself. -/
def Settings.parse? (text : String) : Option Settings :=
  (Toml.parse text).bind fun entries =>
    (Layer.ofEntries? Toml.strings? entries).map (·.over .default)

end HelpQuery
