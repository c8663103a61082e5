import HelpQuery.Proofs.Ranking
import HelpQuery.Proofs.Scanning
import Mathlib.Data.Set.Basic

/-!
# Combined queries

An operator between two raw texts, the first with paired quotation marks, stands between their
parts.  OR starts a new group, so the groups of both sides are the groups of the whole.  AND takes
no sign over from the left side, so the signed atoms of a single group add up.

    (compile (a OR b)).answers docs = (compile a).answers docs ∪ (compile b).answers docs
    (compile (a AND b)).answers docs = (compile a).answers docs ∩ (compile b).answers docs
-/

namespace HelpQuery

/-- The documents of a set that a compiled query finds. -/
def CompiledQuery.answers (q : CompiledQuery) (docs : Set Document) : Set Document :=
  {d ∈ docs | Finds d q.tree?}

theorem CompiledQuery.mem_answers (q : CompiledQuery) (docs : Set Document) (d : Document) :
    d ∈ q.answers docs ↔ d ∈ docs ∧ Finds d q.tree? := Iff.rfl

/-! ## Parts of combined texts -/

/-- The text with an operator between two others. -/
def joinTexts (op : Operator) (a b : String) : String := a ++ " " ++ op.spelling ++ " " ++ b

theorem scan_joinTexts (op : Operator) {a : String} (b : String)
    (heven : Even (a.toList.count '"')) :
    Token.scan (joinTexts op a b) = Token.scan a ++ .operator op :: Token.scan b := by
  have hlist : (joinTexts op a b).toList =
      a.toList ++ ' ' :: (op.spelling.toList ++ ' ' :: b.toList) := by
    simp [joinTexts, String.toList_append]
  rw [Token.scan_eq, hlist, Token.scanChars_operator op _ heven, Token.scan_eq, Token.scan_eq]

theorem analyzeTokens_operator (analyzer : Analyzer) (op : Operator) (left right : List Token) :
    analyzeTokens analyzer (left ++ .operator op :: right) =
      analyzeTokens analyzer left ++ .operator op :: analyzeTokens analyzer right := by
  simp [analyzeTokens_eq_flatMap]

/-- Operators come from operators alone. -/
theorem operator_mem_analyzeTokens (analyzer : Analyzer) (op : Operator) (tokens : List Token) :
    .operator op ∈ analyzeTokens analyzer tokens ↔ .operator op ∈ tokens := by
  have hone : ∀ t : Token, Part.operator op ∈ t.analyze analyzer ↔ t = .operator op := by
    intro t
    cases t with
    | word text => rw [Token.analyze_word]; split <;> simp
    | phrase text => simp [Token.analyze_phrase, Part.mem_ofQuoted]
    | operator o => simp [eq_comm]
  simp [mem_analyzeTokens, hone]

theorem parts_joinTexts (c : Compiler) (op : Operator) {a : String} (b : String)
    (heven : Even (a.toList.count '"')) :
    (c.compile (joinTexts op a b)).parts =
      (c.compile a).parts ++ .operator op :: (c.compile b).parts := by
  rw [c.parts_compile, c.parts_compile, c.parts_compile, scan_joinTexts op b heven,
    analyzeTokens_operator]

/-! ## OR -/

theorem finds_build_or (fields : FieldSet) (left right : List Part) (d : Document) :
    Finds d (build fields (left ++ .operator .or :: right)) ↔
      Finds d (build fields left) ∨ Finds d (build fields right) := by
  have hgroups : orGroups (left ++ .operator .or :: right) = orGroups left ++ orGroups right :=
    segments_append_cons _ left right rfl
  simp only [finds_build, hgroups, List.mem_append, or_and_right, exists_or]

/-! ## AND -/

/-- AND forgets the sign that the left side leaves. -/
theorem signedAtoms_append_and (negated : Bool) (left right : List Part) :
    signedAtoms negated (left ++ .operator .and :: right) =
      signedAtoms negated left ++ signedAtoms false right := by
  induction left generalizing negated with
  | nil => rfl
  | cons x left ih =>
    cases x with
    | atom a => simp [signedAtoms, ih]
    | operator op => cases op <;> simp [signedAtoms, ih]

theorem finds_build_and (fields : FieldSet) {left right : List Part}
    (hleft : .operator .or ∉ left) (hright : .operator .or ∉ right)
    (hl : (build fields left).isSome = true) (hr : (build fields right).isSome = true)
    (d : Document) :
    Finds d (build fields (left ++ .operator .and :: right)) ↔
      Finds d (build fields left) ∧ Finds d (build fields right) := by
  have hboth : .operator .or ∉ left ++ .operator .and :: right := by simp [hleft, hright]
  rw [isSome_build_single fields hleft] at hl
  rw [isSome_build_single fields hright] at hr
  rw [finds_build_single fields hboth, finds_build_single fields hleft,
    finds_build_single fields hright, and_iff_right hl, and_iff_right hr, signedAtoms_append_and]
  simp only [List.mem_append, or_imp, forall_and]
  refine and_iff_right ?_
  obtain ⟨s, hs, hn⟩ := hl
  exact ⟨s, Or.inl hs, hn⟩

/-! ## Answers -/

theorem finds_compile_or (c : Compiler) {a : String} (b : String)
    (heven : Even (a.toList.count '"')) (d : Document) :
    Finds d (c.compile (joinTexts .or a b)).tree? ↔
      Finds d (c.compile a).tree? ∨ Finds d (c.compile b).tree? := by
  rw [c.finds_compile, c.finds_compile, c.finds_compile, parts_joinTexts c .or b heven,
    finds_build_or]

theorem finds_compile_and (c : Compiler) {a b : String} (heven : Even (a.toList.count '"'))
    (ha : .operator .or ∉ Token.scan a) (hb : .operator .or ∉ Token.scan b)
    (hasTree : (c.compile a).tree?.isSome = true) (hbsTree : (c.compile b).tree?.isSome = true)
    (d : Document) :
    Finds d (c.compile (joinTexts .and a b)).tree? ↔
      Finds d (c.compile a).tree? ∧ Finds d (c.compile b).tree? := by
  rw [c.isSome_compile] at hasTree hbsTree
  rw [c.finds_compile, c.finds_compile, c.finds_compile, parts_joinTexts c .and b heven]
  refine finds_build_and c.fields ?_ ?_ hasTree hbsTree d
  · exact fun h => ha ((operator_mem_analyzeTokens c.analyzer .or _).1 h)
  · exact fun h => hb ((operator_mem_analyzeTokens c.analyzer .or _).1 h)

/-- OR is union and, for sides without OR that can be searched, AND is intersection. -/
theorem answers_or_and (c : Compiler) (a b : String) (docs : Set Document)
    (heven : Even (a.toList.count '"')) :
    (c.compile (a ++ " OR " ++ b)).answers docs =
        (c.compile a).answers docs ∪ (c.compile b).answers docs ∧
      (.operator .or ∉ Token.scan a → .operator .or ∉ Token.scan b →
        (c.compile a).tree?.isSome = true → (c.compile b).tree?.isSome = true →
        (c.compile (a ++ " AND " ++ b)).answers docs =
          (c.compile a).answers docs ∩ (c.compile b).answers docs) := by
  have hor : a ++ " OR " ++ b = joinTexts .or a b := by
    simp [joinTexts, Operator.spelling, String.append_assoc]
  have hand : a ++ " AND " ++ b = joinTexts .and a b := by
    simp [joinTexts, Operator.spelling, String.append_assoc]
  rw [hor, hand]
  constructor
  · ext d
    rw [Set.mem_union, CompiledQuery.mem_answers, CompiledQuery.mem_answers,
      CompiledQuery.mem_answers, finds_compile_or c b heven, and_or_left]
  · intro ha hb hasTree hbsTree
    ext d
    rw [Set.mem_inter_iff, CompiledQuery.mem_answers, CompiledQuery.mem_answers,
      CompiledQuery.mem_answers, finds_compile_and c heven ha hb hasTree hbsTree]
    exact and_and_left

/-- A compiler that leaves words as they are. -/
def plainCompiler : Compiler := ⟨fun word => [word], titleAndContents, .default⟩

/-- The first side ends in an operator, and the second starts with one and leaves a mark open. -/
theorem answers_or_and_dangling :
    (plainCompiler.compile ("java NOT" ++ " OR " ++ "AND editor \"swing")).answers {javaPage} =
        (plainCompiler.compile "java NOT").answers {javaPage} ∪
          (plainCompiler.compile "AND editor \"swing").answers {javaPage} ∧
      (plainCompiler.compile ("java NOT" ++ " AND " ++ "AND editor \"swing")).answers {javaPage} =
        (plainCompiler.compile "java NOT").answers {javaPage} ∩
          (plainCompiler.compile "AND editor \"swing").answers {javaPage} := by
  have h := answers_or_and plainCompiler "java NOT" "AND editor \"swing" {javaPage} (by decide)
  exact ⟨h.1, h.2 (by decide) (by decide) (by decide) (by decide)⟩

end HelpQuery
