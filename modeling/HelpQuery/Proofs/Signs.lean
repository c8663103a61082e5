import HelpQuery.Analysis.Pipeline
import HelpQuery.Proofs.Combination

/-!
# Signs of words and phrases

An operator is written in front of a word or a phrase, but it is the next atom that takes its sign.
A word of several terms gives its sign to the first of them alone, and a word without terms hands
the operator on to what comes behind it.  With the signs read in this way, the clauses of a query
are those of its tokens, one after the other:

    build fields (analyzeTokens analyzer tokens) =
      signedTree analyzer fields (carriedSign analyzer) tokens

`writtenSign` is the sign of the operator directly in front of the token.  The two agree on a token
unless it is negated and has several atoms, or a negation is handed on to it.
-/

namespace HelpQuery

/-! ## Atoms of tokens -/

def Part.atom? : Part → Option Atom
  | atom a => some a
  | operator _ => none

namespace Token

/-- The atoms a token becomes; an operator becomes none. -/
def atoms (analyzer : Analyzer) (t : Token) : List Atom :=
  (t.analyze analyzer).filterMap Part.atom?

/-- A token that is no operator becomes its atoms. -/
theorem analyze_eq_atoms (analyzer : Analyzer) {t : Token} (h : t.isOperator = false) :
    t.analyze analyzer = (t.atoms analyzer).map .atom := by
  have hterms : ∀ ts : List String,
      ts.map (fun t => Part.atom (.term t)) =
        ((ts.map fun t => Part.atom (.term t)).filterMap Part.atom?).map .atom := by
    intro ts
    induction ts with
    | nil => rfl
    | cons t ts ih => simpa [Part.atom?] using ih
  cases t with
  | word text =>
    rw [atoms, analyze_word]
    split
    · rfl
    · exact hterms (analyzer text)
  | phrase text =>
    rw [atoms, analyze_phrase]
    cases (quotedWords text).flatMap analyzer <;> rfl
  | operator op => cases h

end Token

/-! ## Groups of tokens -/

/-- The groups of tokens between the ORs. -/
def tokenGroups (tokens : List Token) : List (List Token) :=
  segments (· == .operator .or) tokens

theorem or_not_mem_of_mem_tokenGroups {tokens group : List Token} (h : group ∈ tokenGroups tokens) :
    .operator .or ∉ group := by
  obtain ⟨-, -, -, hfree, -, -⟩ := (mem_segments_iff _ tokens group).1 h
  intro hor
  simpa using hfree _ hor

/-- Analysis goes through the groups. -/
theorem orGroups_analyzeTokens (analyzer : Analyzer) (tokens : List Token) :
    orGroups (analyzeTokens analyzer tokens) =
      (tokenGroups tokens).map (analyzeTokens analyzer) := by
  have hone : ∀ a : List Token, (∀ y ∈ a, (y == Token.operator .or) = false) →
      orGroups (analyzeTokens analyzer a) = [analyzeTokens analyzer a] := by
    intro a ha
    apply orGroups_of_not_mem
    intro hor
    simpa using ha _ ((operator_mem_analyzeTokens analyzer .or a).1 hor)
  induction tokens using segments_induction (· == Token.operator .or) with
  | free a ha =>
    rw [hone a ha, tokenGroups, segments_of_free _ ha]
    rfl
  | cut a x b ha hx ih =>
    obtain rfl : x = .operator .or := by simpa using hx
    have hcut : orGroups (analyzeTokens analyzer a ++ .operator .or :: analyzeTokens analyzer b) =
        orGroups (analyzeTokens analyzer a) ++ orGroups (analyzeTokens analyzer b) :=
      segments_append_cons _ _ _ rfl
    rw [analyzeTokens_operator, hcut, hone a ha, ih, tokenGroups, tokenGroups,
      segments_cut _ b ha hx]
    rfl

/-! ## Two readings of signs -/

/-- How the requirement of an atom of a token is read: from the tokens of its group in front of the
token, and from the place of the atom among those of the token. -/
abbrev SignReading := List Token → Nat → Requirement

/-- Negated if the token directly in front is NOT. -/
def writtenSign : SignReading := fun before _ =>
  if before.getLast? = some (.operator .not) then .prohibited else .required

/-- Of the tokens in front that do not vanish under analysis, the last one is NOT. -/
def CarriesNot (analyzer : Analyzer) (before : List Token) : Prop :=
  (before.filter fun t => t.analyze analyzer ≠ []).getLast? = some (.operator .not)

instance (analyzer : Analyzer) (before : List Token) : Decidable (CarriesNot analyzer before) :=
  inferInstanceAs (Decidable (_ = _))

/-- Negated if the atom is the first of its token and a NOT is carried to the token. -/
def carriedSign (analyzer : Analyzer) : SignReading := fun before i =>
  if i = 0 ∧ CarriesNot analyzer before then .prohibited else .required

section

variable (analyzer : Analyzer) (fields : FieldSet)

/-- The clauses of a token behind some others, with their requirements under a reading. -/
def tokenClauses (sign : SignReading) (before : List Token) (t : Token) : List (Clause Tree) :=
  (t.atoms analyzer).mapIdx fun i a => ⟨sign before i, fields.query a⟩

/-- The clauses of the tokens of a group, from any place of it on. -/
def groupClauses (sign : SignReading) (before : List Token) : List Token → List (Clause Tree)
  | [] => []
  | t :: rest =>
    tokenClauses analyzer fields sign before t ++ groupClauses sign (before ++ [t]) rest

end

/-- A group with these clauses, if one of them is required. -/
def searchable? (clauses : List (Clause Tree)) : Option Tree :=
  if clauses.any (·.requirement = .required) then some (.boolean clauses) else none

/-- No query, the only one, or any of several. -/
def Tree.anyOf : List Tree → Option Tree
  | [] => none
  | [tree] => some tree
  | trees => some (any trees)

/-- The tree of the clauses of some tokens under a reading. -/
def signedTree (analyzer : Analyzer) (fields : FieldSet) (sign : SignReading)
    (tokens : List Token) : Option Tree :=
  Tree.anyOf <| (tokenGroups tokens).filterMap fun group =>
    searchable? (groupClauses analyzer fields sign [] group)

/-! ## Carried signs -/

section

variable (analyzer : Analyzer)

theorem carriesNot_nil : ¬ CarriesNot analyzer [] := by simp [CarriesNot]

/-- An operator settles what is carried behind it. -/
theorem carriesNot_operator (before : List Token) (op : Operator) :
    CarriesNot analyzer (before ++ [.operator op]) ↔ op = .not := by
  simp [CarriesNot]

/-- A token without atoms hands on what is carried to it. -/
theorem carriesNot_vanishing (before : List Token) {t : Token} (h : t.analyze analyzer = []) :
    CarriesNot analyzer (before ++ [t]) ↔ CarriesNot analyzer before := by
  simp [CarriesNot, h]

/-- Nothing is carried over an atom. -/
theorem not_carriesNot_atoms (before : List Token) {t : Token} (hop : t.isOperator = false)
    (h : t.analyze analyzer ≠ []) : ¬ CarriesNot analyzer (before ++ [t]) := by
  have hlast : t ≠ .operator .not := by
    rintro rfl
    cases hop
  simp [CarriesNot, h, hlast]

end

/-- The clause of a signed atom. -/
def SignedAtom.clause (fields : FieldSet) (s : SignedAtom) : Clause Tree :=
  ⟨if s.negated then .prohibited else .required, fields.query s.atom⟩

/-- Of several atoms in a row only the first takes the sign. -/
theorem signedAtoms_map_atom (negated : Bool) (a : Atom) (as : List Atom) (rest : List Part) :
    signedAtoms negated ((a :: as).map Part.atom ++ rest) =
      ⟨negated, a⟩ :: as.map (⟨false, ·⟩) ++ signedAtoms false rest := by
  induction as generalizing negated a with
  | nil => rfl
  | cons b as ih =>
    show ⟨negated, a⟩ :: signedAtoms false ((b :: as).map Part.atom ++ rest) = _
    rw [ih false b]
    rfl

section

variable (analyzer : Analyzer) (fields : FieldSet)

/-- The clauses of a token with atoms: the first takes what is carried, the others are plain. -/
theorem tokenClauses_cons {before : List Token} {t : Token} {a : Atom} {as : List Atom}
    (h : t.atoms analyzer = a :: as) :
    tokenClauses analyzer fields (carriedSign analyzer) before t =
      SignedAtom.clause fields ⟨decide (CarriesNot analyzer before), a⟩ ::
        as.map fun b => SignedAtom.clause fields ⟨false, b⟩ := by
  have hfirst : carriedSign analyzer before 0 =
      if decide (CarriesNot analyzer before) then .prohibited else .required := by
    simp [carriedSign]
  have hothers : ∀ i, carriedSign analyzer before (i + 1) = .required := by
    intro i
    simp [carriedSign]
  have hmap : as.mapIdx (fun i b => Clause.mk (carriedSign analyzer before (i + 1))
      (fields.query b)) = as.map fun b => SignedAtom.clause fields ⟨false, b⟩ := by
    apply List.ext_getElem
    · simp
    · intro i _ _
      simp [hothers i, SignedAtom.clause]
  rw [tokenClauses, h, List.mapIdx_cons, hmap, hfirst]
  rfl

/-- From any place of a group on, the signed atoms make the clauses of the tokens. -/
theorem map_clause_signedAtoms (rest : List Token) (hor : .operator .or ∉ rest) :
    ∀ before : List Token,
      (signedAtoms (decide (CarriesNot analyzer before)) (analyzeTokens analyzer rest)).map
          (SignedAtom.clause fields) =
        groupClauses analyzer fields (carriedSign analyzer) before rest := by
  induction rest with
  | nil => intro before; rfl
  | cons t rest ih =>
    intro before
    have hrest : .operator .or ∉ rest := fun h => hor (List.mem_cons_of_mem _ h)
    rw [analyzeTokens_cons, groupClauses, ← ih hrest (before ++ [t])]
    cases hop : t.isOperator with
    | true =>
      obtain ⟨op, rfl⟩ : ∃ op, t = .operator op := by
        cases t with
        | operator op => exact ⟨op, rfl⟩
        | word text => cases hop
        | phrase text => cases hop
      have hne : op ≠ .or := by
        rintro rfl
        exact hor List.mem_cons_self
      have hcarried : decide (CarriesNot analyzer (before ++ [.operator op])) = (op == .not) := by
        rw [Bool.eq_iff_iff]
        simp [carriesNot_operator]
      show (signedAtoms _ (.operator op :: analyzeTokens analyzer rest)).map _ = _
      rw [signedAtoms_operator _ hne, hcarried]
      rfl
    | false =>
      have hanalyze := Token.analyze_eq_atoms analyzer hop
      cases hatoms : t.atoms analyzer with
      | nil =>
        have hnil : t.analyze analyzer = [] := by rw [hanalyze, hatoms]; rfl
        have hclauses : tokenClauses analyzer fields (carriedSign analyzer) before t = [] := by
          rw [tokenClauses, hatoms]
          rfl
        simp only [carriesNot_vanishing analyzer before hnil, hnil, hclauses, List.nil_append]
      | cons a as =>
        have hne : t.analyze analyzer ≠ [] := by
          rw [hanalyze, hatoms]
          simp
        have hcarried : decide (CarriesNot analyzer (before ++ [t])) = false :=
          decide_eq_false (not_carriesNot_atoms analyzer before hop hne)
        rw [hanalyze, hatoms, signedAtoms_map_atom, tokenClauses_cons analyzer fields hatoms,
          hcarried, List.map_append, List.map_cons, List.map_map]
        rfl

/-! ## Trees -/

theorem buildGroup_eq_searchable? (parts : List Part) :
    buildGroup fields parts =
      searchable? ((signedAtoms false parts).map (SignedAtom.clause fields)) := by
  have hany : ((signedAtoms false parts).map (SignedAtom.clause fields)).any
      (·.requirement = .required) = (signedAtoms false parts).any (! ·.negated) := by
    rw [List.any_map]
    congr 1
    funext s
    cases hs : s.negated <;> simp [SignedAtom.clause, hs]
  rw [buildGroup, searchable?, hany]
  rfl

theorem build_eq_anyOf (parts : List Part) :
    build fields parts = Tree.anyOf ((orGroups parts).filterMap (buildGroup fields)) := by
  unfold build
  generalize (orGroups parts).filterMap (buildGroup fields) = trees
  rcases trees with _ | ⟨tree, _ | ⟨other, rest⟩⟩ <;> rfl

/-- The tree of a query has the clauses of its tokens under the carried signs. -/
theorem build_analyzeTokens (tokens : List Token) :
    build fields (analyzeTokens analyzer tokens) =
      signedTree analyzer fields (carriedSign analyzer) tokens := by
  rw [build_eq_anyOf, orGroups_analyzeTokens, List.filterMap_map, signedTree]
  congr 1
  apply List.filterMap_congr
  intro group hgroup
  have hor := or_not_mem_of_mem_tokenGroups hgroup
  have hclauses := map_clause_signedAtoms analyzer fields group hor []
  rw [decide_eq_false (carriesNot_nil analyzer)] at hclauses
  rw [Function.comp_apply, buildGroup_eq_searchable?, hclauses]

/-! ## Where the readings agree -/

/-- A NOT directly in front is carried. -/
theorem carriesNot_of_getLast? {before : List Token}
    (h : before.getLast? = some (.operator .not)) : CarriesNot analyzer before := by
  obtain ⟨init, rfl⟩ := List.getLast?_eq_some_iff.1 h
  exact (carriesNot_operator analyzer init .not).2 rfl

/-- The clauses of a token are the same under both readings unless several atoms follow the NOT, or
a NOT that is not written in front of the token is carried to its atoms. -/
theorem tokenClauses_eq_iff (before : List Token) (t : Token) :
    tokenClauses analyzer fields (carriedSign analyzer) before t =
        tokenClauses analyzer fields writtenSign before t ↔
      t.atoms analyzer = [] ∨ ¬ CarriesNot analyzer before ∨
        before.getLast? = some (.operator .not) ∧ (t.atoms analyzer).length = 1 := by
  have hsigns : tokenClauses analyzer fields (carriedSign analyzer) before t =
        tokenClauses analyzer fields writtenSign before t ↔
      ∀ i < (t.atoms analyzer).length, carriedSign analyzer before i = writtenSign before i := by
    rw [tokenClauses, tokenClauses, List.mapIdx_eq_mapIdx_iff]
    simp
  rw [hsigns]
  unfold carriedSign writtenSign
  cases hatoms : t.atoms analyzer with
  | nil => simp
  | cons a as =>
    by_cases hw : before.getLast? = some (.operator .not)
    · have hc := carriesNot_of_getLast? analyzer hw
      cases as with
      | nil => simp [hw, hc]
      | cons b as =>
        constructor
        · intro h
          have hsecond := h 1 (by simp)
          simp [hw] at hsecond
        · rintro (h | h | ⟨-, h⟩)
          · cases h
          · exact absurd hc h
          · simp at h
    · constructor
      · intro h
        have hzero := h 0 (by simp)
        rw [if_neg hw] at hzero
        refine Or.inr (Or.inl fun hc => ?_)
        rw [if_pos ⟨rfl, hc⟩] at hzero
        cases hzero
      · rintro (h | hc | ⟨h, -⟩)
        · cases h
        · intro i _
          rw [if_neg fun h => hc h.2, if_neg hw]
        · exact absurd h hw

end

/-! ## Signs in raw queries -/

/-- The clauses of the tree of a raw query are those of its words and phrases, of whose atoms the
first is prohibited if a NOT is carried to it, and all others are required.  These are the signs
written in front of a word or phrase if it becomes a single atom, as long as no word between it and
a NOT vanishes. -/
theorem build_scan_signs (analyzer : Analyzer) (fields : FieldSet) (raw : String) :
    build fields (analyzeTokens analyzer (Token.scan raw)) =
        signedTree analyzer fields (carriedSign analyzer) (Token.scan raw) ∧
      ∀ before t,
        tokenClauses analyzer fields (carriedSign analyzer) before t =
            tokenClauses analyzer fields writtenSign before t ↔
          t.atoms analyzer = [] ∨ ¬ CarriesNot analyzer before ∨
            before.getLast? = some (.operator .not) ∧ (t.atoms analyzer).length = 1 :=
  ⟨build_analyzeTokens analyzer fields (Token.scan raw), tokenClauses_eq_iff analyzer fields⟩

/-- The requirements of the clauses of a tree, if there is one. -/
def requirements? (tree? : Option Tree) : Option (List Requirement) :=
  tree?.map fun tree => tree.clauses.map (·.requirement)

/-- A negated word that becomes two terms has the second one required. -/
theorem not_build_writtenSign :
    ¬ ∀ (analyzer : Analyzer) (fields : FieldSet) (raw : String) (tree : Tree),
      build fields (analyzeTokens analyzer (Token.scan raw)) = some tree →
        signedTree analyzer fields writtenSign (Token.scan raw) = some tree := by
  intro h
  let english : Analyzer := (Language.english.pipeline .builtIn true).analyzer
  let tokens := Token.scan "java NOT drag-and-drop"
  have hbuilt : requirements? (build titleAndContents (analyzeTokens english tokens)) =
      some [.required, .prohibited, .required] := by decide +kernel
  have hwritten : requirements? (signedTree english titleAndContents writtenSign tokens) =
      some [.required, .prohibited, .prohibited] := by decide +kernel
  cases htree : build titleAndContents (analyzeTokens english tokens) with
  | none =>
    rw [htree] at hbuilt
    cases hbuilt
  | some tree =>
    rw [h english titleAndContents _ tree htree, ← htree, hbuilt] at hwritten
    exact absurd hwritten (by decide)

end HelpQuery
