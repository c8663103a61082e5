import HelpQuery.Analysis.English
import HelpQuery.Analysis.Language
import HelpQuery.Analysis.Run
import HelpQuery.Analysis.StopWords
import HelpQuery.Query.Part

/-!
# The analysis pipeline

A text becomes index terms in six stages: its alphanumeric runs are put in lower case, over-long
ones and stop words are left out, the others are stemmed, and the terms are numbered without gaps.
Query words go through the same pipeline, one at a time, so a phrase lines up with indexed text.
-/

namespace HelpQuery

/-- A term at its place in a text: its number in order and its byte offsets. -/
structure Occurrence where
  term : String
  position : Nat
  start : Nat
  stop : Nat
  deriving DecidableEq, Repr

/-- What a pipeline does with single words. -/
structure Pipeline where
  /-- Words that are left out. -/
  isStopWord : String → Bool
  stem : String → String

namespace Pipeline

/-- The number of bytes from which on a word is left out. -/
def longWord : Nat := 40

/-- The term of a run, unless the run is left out. -/
def term? (p : Pipeline) (chars : List Char) : Option String :=
  let word := Text.lower chars
  if longWord ≤ byteLength word then none
  else if p.isStopWord (String.ofList word) then none
  else some (p.stem (String.ofList word))

/-- The terms of the runs that are kept, in order, with these runs. -/
def kept (p : Pipeline) (text : String) : List (Run × String) :=
  (runs text).filterMap fun r => (p.term? r.chars).map (r, ·)

/-- The terms of a text, numbered from zero. -/
def occurrences (p : Pipeline) (text : String) : List Occurrence :=
  (p.kept text).zipIdx.map fun ((r, term), i) => ⟨term, i, r.start, r.stop⟩

/-- The terms of a text, in order. -/
def terms (p : Pipeline) (text : String) : List String :=
  (p.occurrences text).map Occurrence.term

/-- The analyzer that runs each word through the pipeline. -/
def analyzer (p : Pipeline) : Analyzer := p.terms

end Pipeline

/-- The stemmers of the languages. -/
structure Stemmers where
  stem : Language → String → String

/-- The stemmers that are built in: that of English.  Words of other languages are left alone. -/
def Stemmers.builtIn : Stemmers where
  stem
    | .english => English.stem
    | _ => id

/-- The pipeline of a language; there are stop words for English alone. -/
def Language.pipeline (language : Language) (stemmers : Stemmers) (stopWords : Bool) :
    Pipeline where
  isStopWord word := stopWords && language == english && englishStopWords.contains word
  stem := stemmers.stem language

end HelpQuery
