import HelpQuery.Settings.Basic

/-!
# Overrides

What the options of one run say about the settings.  Named fields replace all configured ones; the
switches only ever turn one way.
-/

namespace HelpQuery

structure Overrides where
  /-- The named fields, if any are given. -/
  fields : List String
  namedOnly : Bool
  stemmer? : Option String
  keepStopWords : Bool
  plainRanking : Bool
  deriving DecidableEq, Repr

/-- The settings under the overrides. -/
def Overrides.over (o : Overrides) (s : Settings) : Settings :=
  { s with
    fields := if o.fields = [] then s.fields else o.fields
    namedOnly := o.namedOnly || s.namedOnly
    stemmer := o.stemmer?.getD s.stemmer
    stopWords := !o.keepStopWords && s.stopWords
    improveRanking := !o.plainRanking && s.improveRanking }

end HelpQuery
