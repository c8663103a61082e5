import HelpQuery.Query.Ranking

/-!
# Compiling a raw query

A compiler holds the analyzer, the fields and the options; compiling a raw query scans it, analyzes
its tokens, builds the tree and, if asked to, improves its ranking.
-/

namespace HelpQuery

/-- Choices of a compiler. -/
structure CompileOptions where
  /-- Add the whole-query phrases to plain word queries. -/
  improveRanking : Bool
  phraseBoostFactor : Single
  deriving DecidableEq

/-- The usual choices. -/
def CompileOptions.default : CompileOptions := ⟨true, defaultPhraseFactor⟩

/-- A query after each stage of compilation. -/
structure CompiledQuery where
  raw : String
  tokens : List Token
  parts : List Part
  /-- The query to execute, unless nothing searchable remained. -/
  tree? : Option Tree
  highlightTerms : String

/-- What raw queries are compiled with. -/
structure Compiler where
  analyzer : Analyzer
  fields : FieldSet
  options : CompileOptions

namespace Compiler

def compile (c : Compiler) (raw : String) : CompiledQuery :=
  let tokens := Token.scan raw
  let parts := analyzeTokens c.analyzer tokens
  let built? := build c.fields parts
  { raw, tokens, parts
    tree? :=
      if c.options.improveRanking then
        built?.map (enhance · parts c.fields c.options.phraseBoostFactor)
      else built?
    highlightTerms := highlightTerms parts }

end Compiler

end HelpQuery
