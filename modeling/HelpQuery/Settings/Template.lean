/-!
# The settings template

A new settings file explains every setting and changes none: the lines that would set something
are commented out.
-/

namespace HelpQuery

/-- An example file with every setting. -/
def exampleLines : List String :=
  ["# hq configuration",
   "#",
   "# Settings are looked up in every .hq.toml from the current directory up to",
   "# the filesystem root, then in ~/.hq.toml. The closest file wins.",
   "",
   "# Stop looking in parent directories and ~/.hq.toml.",
   "root = false",
   "",
   "[search]",
   "# Named fields searched in addition to the default field. A single string or",
   "# an array.",
   "fields = [\"title\"]",
   "",
   "# Search only the named fields.",
   "field_search_only = false",
   "",
   "# Field searched when no field is named, and its boost.",
   "default_field = \"contents\"",
   "default_field_boost = 1.0",
   "",
   "# Boost of each named field.",
   "field_boost = 5.0",
   "",
   "# Analyzer language and English stop word removal.",
   "stemmer = \"english\"",
   "stop_words = true",
   "",
   "# Rank documents with the words next to each other higher, multiplying each",
   "# field's boost by phrase_boost_factor.",
   "improve_ranking = true",
   "phrase_boost_factor = 10.0"]

/-- A line made a comment, unless it is one already or empty. -/
def commentedOut (line : String) : String :=
  if line.isEmpty || line.startsWith "#" then line else "# " ++ line

/-- The text of a new settings file. -/
def settingsTemplate : String :=
  String.join (exampleLines.map fun line => commentedOut line ++ "\n")

end HelpQuery
