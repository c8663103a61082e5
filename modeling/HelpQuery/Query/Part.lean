import HelpQuery.Query.Token

/-!
# Analyzed queries

An analyzer turns one raw word into index terms.  Analyzing the tokens of a query gives its parts:
atoms, which can be searched for, and operators, which pass through.  A word holding `?` or `*`
becomes a wildcard pattern without being analyzed; inside quotation marks every word is analyzed,
and a phrase none of whose words has a term is dropped.
-/

namespace HelpQuery

/-- Maps one raw word to its index terms. -/
abbrev Analyzer := String → List String

/-- What a single clause of a query looks for. -/
inductive Atom where
  | term (text : String)
  | wildcard (pattern : String)
  | phrase (terms : List String)
  deriving DecidableEq, Repr

namespace Atom

/-- The terms an atom carries, a wildcard's pattern among them. -/
def terms : Atom → List String
  | term text => [text]
  | wildcard pattern => [pattern]
  | phrase ts => ts

/-- A single word, wildcard or not. -/
def isPlainWord : Atom → Bool
  | phrase _ => false
  | _ => true

end Atom

/-- An element of an analyzed query. -/
inductive Part where
  | atom (a : Atom)
  | operator (op : Operator)
  deriving DecidableEq, Repr

namespace Part

def terms : Part → List String
  | atom a => a.terms
  | operator _ => []

def isPlainWord : Part → Bool
  | atom a => a.isPlainWord
  | operator _ => false

/-- The part a quoted text with these terms becomes, if it has any. -/
def ofQuoted : List String → List Part
  | [] => []
  | terms => [atom (.phrase terms)]

theorem mem_ofQuoted {terms : List String} {part : Part} :
    part ∈ ofQuoted terms ↔ terms ≠ [] ∧ part = atom (.phrase terms) := by
  cases terms with
  | nil => exact ⟨nofun, fun h => absurd rfl h.1⟩
  | cons term rest => simp [ofQuoted]

theorem ofQuoted_of_ne_nil {terms : List String} (h : terms ≠ []) :
    ofQuoted terms = [atom (.phrase terms)] := by
  cases terms with
  | nil => exact absurd rfl h
  | cons term rest => rfl

end Part

/-- Whether a word is a wildcard pattern. -/
def isWildcard (word : String) : Bool := word.toList.any fun c => c == '?' || c == '*'

/-- The words of a quoted text. -/
def quotedWords (text : String) : List String :=
  (Text.words text.toList).map String.ofList

namespace Token

/-- The words of a token that are given to the analyzer, in order. -/
def analyzedWords : Token → List String
  | word text => if isWildcard text then [] else [text]
  | phrase text => quotedWords text
  | operator _ => []

/-- The parts a token becomes, with an analyzer that may have effects. -/
def analyzeM {m : Type → Type} [Monad m] (analyzer : String → m (List String)) :
    Token → m (List Part)
  | word text =>
    if isWildcard text then return [.atom (.wildcard text)]
    else do return (← analyzer text).map fun t => .atom (.term t)
  | phrase text => do return Part.ofQuoted (← (quotedWords text).mapM analyzer).flatten
  | operator op => return [.operator op]

/-- The parts a token becomes. -/
def analyze (analyzer : Analyzer) (token : Token) : List Part :=
  Id.run (token.analyzeM fun word => pure (analyzer word))

theorem analyze_word (analyzer : Analyzer) (text : String) :
    (word text).analyze analyzer =
      if isWildcard text then [.atom (.wildcard text)]
      else (analyzer text).map fun t => .atom (.term t) := by
  rw [analyze, analyzeM]
  split <;> rfl

theorem analyze_phrase (analyzer : Analyzer) (text : String) :
    (phrase text).analyze analyzer = Part.ofQuoted ((quotedWords text).flatMap analyzer) := by
  rw [analyze, analyzeM, List.mapM_pure, List.flatMap_def]
  rfl

@[simp] theorem analyze_operator (analyzer : Analyzer) (op : Operator) :
    (operator op).analyze analyzer = [.operator op] := rfl

end Token

/-- The parts of a list of tokens, with an analyzer that may have effects. -/
def analyzeTokensM {m : Type → Type} [Monad m] (analyzer : String → m (List String))
    (tokens : List Token) : m (List Part) := do
  return (← tokens.mapM (Token.analyzeM analyzer)).flatten

/-- The parts of a list of tokens, in order. -/
def analyzeTokens (analyzer : Analyzer) (tokens : List Token) : List Part :=
  Id.run (analyzeTokensM (fun word => pure (analyzer word)) tokens)

theorem analyzeTokens_eq_flatMap (analyzer : Analyzer) (tokens : List Token) :
    analyzeTokens analyzer tokens = tokens.flatMap (Token.analyze analyzer) := by
  have hpure : Token.analyzeM (fun word => (pure (analyzer word) : Id _)) =
      fun t => pure (t.analyze analyzer) := rfl
  rw [analyzeTokens, analyzeTokensM, hpure, List.mapM_pure, List.flatMap_def]
  rfl

theorem analyzeTokens_cons (analyzer : Analyzer) (t : Token) (tokens : List Token) :
    analyzeTokens analyzer (t :: tokens) = t.analyze analyzer ++ analyzeTokens analyzer tokens := by
  simp only [analyzeTokens_eq_flatMap, List.flatMap_cons]

theorem mem_analyzeTokens {analyzer : Analyzer} {tokens : List Token} {part : Part} :
    part ∈ analyzeTokens analyzer tokens ↔ ∃ t ∈ tokens, part ∈ t.analyze analyzer := by
  rw [analyzeTokens_eq_flatMap, List.mem_flatMap]

/-- The terms of all parts, in order. -/
def partTerms (parts : List Part) : List String := parts.flatMap Part.terms

/-- The terms to highlight in results, separated by single spaces. -/
def highlightTerms (parts : List Part) : String := " ".intercalate (partTerms parts)

/-- Nothing but single words: no phrase and no operator. -/
def isPlainWordQuery (parts : List Part) : Bool := parts.all Part.isPlainWord

end HelpQuery
