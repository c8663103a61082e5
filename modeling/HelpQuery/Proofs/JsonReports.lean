import HelpQuery.Proofs.Fallible
import HelpQuery.Proofs.JsonTexts
import HelpQuery.Proofs.Leaves
import HelpQuery.Query.ReportJson

/-!
# Reading reports back

The members of an object are found by their keys.  A token, a part and a tree can be read from their
values, and so can the report on a compiled query; what is read of a tree is all but its boosts.
The text of a report has one value only, so this is what any reader of it finds.

    Token.ofJson? t.toJson = some t
    Tree.ofJson? t.toJson = some t.unweighted
    Tells ReportedQuery.ofJson? (q.toJson fields).pretty q.reported
-/

namespace HelpQuery

/-! ## Values by their keys -/

namespace Json

def text? : Json → Option String
  | string text => some text
  | _ => none

def flag? : Json → Option Bool
  | bool b => some b
  | _ => none

def items? : Json → Option (List Json)
  | array items => some items
  | _ => none

/-- What is read from each item of an array. -/
def each? {α : Type} (read : Json → Option α) (v : Json) : Option (List α) :=
  v.items?.bind fun items => items.mapM read

/-- What is read from the member with a key. -/
def at? {α : Type} (key : String) (read : Json → Option α) : Json → Option α
  | object members => (members.lookup key).bind read
  | _ => none

theorem each?_array {α : Type} {read : Json → Option α} {write : α → Json} {xs : List α}
    (h : ∀ x ∈ xs, read (write x) = some x) : (array (xs.map write)).each? read = some xs :=
  mapM_map_eq_some h

theorem each?_strings (texts : List String) : (strings texts).each? text? = some texts :=
  each?_array fun _ _ => rfl

/-! ## Sound values -/

/-- No key occurs twice. -/
def DistinctKeys : Json → Prop
  | object members => (members.map Prod.fst).Nodup
  | _ => True

/-- A value that can be written and found by its keys. -/
def Sound (v : Json) : Prop := v.IsNumeral ∧ v.DistinctKeys

theorem sound_string (text : String) : (string text).Everywhere Sound := ⟨trivial, trivial⟩

theorem sound_ofSingle (x : Single) : (ofSingle x).Everywhere Sound := by
  cases x with
  | nan => exact ⟨trivial, trivial⟩
  | infinite negative => exact ⟨trivial, trivial⟩
  | finite negative m => exact ⟨numberText_write negative m, trivial⟩

theorem sound_array {items : List Json} (h : ∀ v ∈ items, v.Everywhere Sound) :
    (array items).Everywhere Sound :=
  (everywhere_array Sound items).2 ⟨⟨trivial, trivial⟩, h⟩

theorem sound_object {members : List (String × Json)} (hkeys : (members.map Prod.fst).Nodup)
    (h : ∀ m ∈ members, m.2.Everywhere Sound) : (object members).Everywhere Sound :=
  (everywhere_object Sound members).2 ⟨⟨trivial, hkeys⟩, h⟩

theorem sound_strings (texts : List String) : (strings texts).Everywhere Sound :=
  sound_array (List.forall_mem_map.2 fun text _ => sound_string text)

/-- A text is well-formed, whatever it is read as holds no key twice, and reading gives this. -/
structure Tells {α : Type} (read : Json → Option α) (text : String) (a : α) : Prop where
  wellFormed : ∃ v, TextOf text v
  distinct : ∀ v, TextOf text v → v.Everywhere DistinctKeys
  read_eq : ∀ v, TextOf text v → read v = some a

theorem Tells.of_textOf {α : Type} {read : Json → Option α} {text : String} {a : α} {v : Json}
    (htext : TextOf text v) (hsound : v.Everywhere Sound) (hread : read v = some a) :
    Tells read text a where
  wellFormed := ⟨v, htext⟩
  distinct := fun _ hw => hw.unique htext ▸ hsound.mono fun _ h => h.2
  read_eq := fun _ hw => hw.unique htext ▸ hread

end Json

open Json

/-! ## Tokens and parts -/

def Operator.ofKind? (kind : String) : Option Operator :=
  [and, or, not].find? fun op => op.kind = kind

namespace Token

def ofJson? (v : Json) : Option Token := do
  let kind ← v.at? "kind" text?
  if kind = "word" then return word (← v.at? "text" text?)
  else if kind = "phrase" then return phrase (← v.at? "text" text?)
  else return operator (← Operator.ofKind? kind)

theorem ofJson?_toJson (t : Token) : ofJson? t.toJson = some t := by
  cases t with
  | word text => rfl
  | phrase text => rfl
  | operator op => cases op <;> rfl

theorem sound_toJson (t : Token) : t.toJson.Everywhere Sound := by
  cases t <;> exact sound_object (by simp) (by simp [sound_string])

end Token

namespace Part

def ofJson? (v : Json) : Option Part := do
  let kind ← v.at? "kind" text?
  if kind = "term" then return atom (.term (← v.at? "terms" text?))
  else if kind = "wildcard" then return atom (.wildcard (← v.at? "terms" text?))
  else if kind = "phrase" then return atom (.phrase (← v.at? "terms" (each? text?)))
  else return operator (← Operator.ofKind? kind)

theorem ofJson?_toJson (p : Part) : ofJson? p.toJson = some p := by
  cases p with
  | atom a =>
    cases a with
    | term text => rfl
    | wildcard pattern => rfl
    | phrase terms =>
      have hterms := each?_strings terms
      simp [ofJson?, toJson, at?, text?, List.lookup_cons, hterms]
  | operator op => cases op <;> rfl

theorem sound_toJson (p : Part) : p.toJson.Everywhere Sound := by
  cases p with
  | atom a => cases a <;> exact sound_object (by simp) (by simp [sound_string, sound_strings])
  | operator op => exact sound_object (by simp) (by simp [sound_string])

end Part

/-! ## Trees -/

def Requirement.ofKey? (key : String) : Option Requirement :=
  [required, prohibited, optional].find? fun r => r.key = key

theorem Requirement.ofKey?_key (r : Requirement) : ofKey? r.key = some r := by
  cases r <;> rfl

/-- The atom of a leaf, by the type of the leaf. -/
def Atom.ofJson? (type : String) (v : Json) : Option Atom :=
  if type = "term" then (v.at? "text" text?).map term
  else if type = "wildcard" then (v.at? "pattern" text?).map wildcard
  else if type = "phrase" then (v.at? "terms" (each? text?)).map phrase
  else none

namespace Tree

mutual

/-- The tree with all its boosts replaced by one. -/
def unweighted : Tree → Tree
  | leaf field atom _ => leaf field atom (.ofNat 1)
  | boolean cs => boolean (unweightedClauses cs)

def unweightedClauses : List (Clause Tree) → List (Clause Tree)
  | [] => []
  | ⟨requirement, query⟩ :: rest => ⟨requirement, query.unweighted⟩ :: unweightedClauses rest

end

mutual

/-- What a value tells of a tree, boosts aside. -/
def ofJson? : Json → Option Tree
  | .object members => do
    let type ← (Json.object members).at? "type" text?
    if type = "boolean" then return boolean (← clausesIn? members)
    else
      let field ← (Json.object members).at? "field" text?
      return leaf field (← Atom.ofJson? type (.object members)) (.ofNat 1)
  | _ => none

/-- The clauses among the members of a group. -/
def clausesIn? : List (String × Json) → Option (List (Clause Tree))
  | [] => none
  | (key, value) :: rest => if key = "clauses" then clausesOf? value else clausesIn? rest

def clausesOf? : Json → Option (List (Clause Tree))
  | .array items => clauseItems? items
  | _ => none

def clauseItems? : List Json → Option (List (Clause Tree))
  | [] => some []
  | item :: rest => do return (← clauseOf? item) :: (← clauseItems? rest)

def clauseOf? : Json → Option (Clause Tree)
  | .object members => do
    let requirement ← ((Json.object members).at? "requirement" text?).bind Requirement.ofKey?
    return ⟨requirement, ← queryIn? members⟩
  | _ => none

/-- The query among the members of a clause. -/
def queryIn? : List (String × Json) → Option Tree
  | [] => none
  | (key, value) :: rest => if key = "query" then ofJson? value else queryIn? rest

end

theorem ofJson?_toJson (tree : Tree) : ofJson? tree.toJson = some tree.unweighted := by
  induction tree using induction_clauses with
  | leaf field a boost =>
    cases a with
    | term text => rfl
    | wildcard pattern => rfl
    | phrase terms =>
      have hterms := each?_strings terms
      simp [ofJson?, toJson, Atom.members, Atom.ofJson?, unweighted, at?, text?, List.lookup_cons,
        hterms]
  | boolean cs ih =>
    have hitems : clauseItems? (clausesJson cs) = some (unweightedClauses cs) := by
      induction cs with
      | nil => rfl
      | cons c cs ihcs =>
        obtain ⟨hc, hcs⟩ := List.forall_mem_cons.1 ih
        have hclause : clauseOf? (.object [("query", c.query.toJson),
            ("requirement", .string c.requirement.key)]) =
            some ⟨c.requirement, c.query.unweighted⟩ := by
          have hrequirement := c.requirement.ofKey?_key
          simp [clauseOf?, queryIn?, at?, text?, List.lookup_cons, hc, hrequirement]
        rw [clausesJson, clauseItems?, hclause, ihcs hcs]
        rfl
    simp [ofJson?, toJson, unweighted, at?, text?, List.lookup_cons, clausesIn?, clausesOf?, hitems]

theorem sound_toJson (tree : Tree) : tree.toJson.Everywhere Sound := by
  induction tree using induction_clauses with
  | leaf field a boost =>
    cases a <;> exact sound_object (by simp [Atom.members])
      (by simp [Atom.members, sound_string, sound_strings, sound_ofSingle])
  | boolean cs ih =>
    have hitems : ∀ v ∈ clausesJson cs, v.Everywhere Sound := by
      induction cs with
      | nil => simp [clausesJson]
      | cons c cs ihcs =>
        obtain ⟨hc, hcs⟩ := List.forall_mem_cons.1 ih
        refine List.forall_mem_cons.2 ⟨sound_object (by simp) ?_, ihcs hcs⟩
        simp [hc, sound_string]
    exact sound_object (by simp) (by simp [sound_string, sound_array hitems])

end Tree

/-! ## Reports -/

/-- What the report on a compiled query is read as. -/
structure ReportedQuery where
  raw : String
  tokens : List Token
  parts : List Part
  /-- The tree, boosts aside. -/
  tree? : Option Tree
  highlightTerms : String
  unterminated : Bool

/-- A value that may be absent. -/
def Json.present? {α : Type} (read : Json → Option α) : Json → Option (Option α)
  | null => some none
  | v => (read v).map some

def ReportedQuery.ofJson? (v : Json) : Option ReportedQuery := do
  return {
    raw := ← v.at? "raw" text?
    tokens := ← v.at? "lexical" (each? Token.ofJson?)
    parts := ← v.at? "normalized" (each? Part.ofJson?)
    tree? := ← v.at? "tree" (present? Tree.ofJson?)
    highlightTerms := ← v.at? "highlight_terms" text?
    unterminated := ← v.at? "unterminated_quote" flag? }

namespace CompiledQuery

/-- What a report is to tell. -/
def reported (q : CompiledQuery) : ReportedQuery where
  raw := q.raw
  tokens := q.tokens
  parts := q.parts
  tree? := q.tree?.map Tree.unweighted
  highlightTerms := q.highlightTerms
  unterminated := hasUnterminatedQuote q.raw

theorem present?_tree (tree? : Option Tree) :
    present? Tree.ofJson? (tree?.elim .null Tree.toJson) = some (tree?.map Tree.unweighted) := by
  cases tree? with
  | none => rfl
  | some tree =>
    have hread := tree.ofJson?_toJson
    cases tree <;> simpa [present?, Tree.toJson] using hread

theorem ofJson?_toJson (q : CompiledQuery) (fields : FieldSet) :
    ReportedQuery.ofJson? (q.toJson fields) = some q.reported := by
  have htokens : (Json.array (q.tokens.map Token.toJson)).each? Token.ofJson? = some q.tokens :=
    each?_array fun t _ => t.ofJson?_toJson
  have hparts : (Json.array (q.parts.map Part.toJson)).each? Part.ofJson? = some q.parts :=
    each?_array fun p _ => p.ofJson?_toJson
  have hlexical : (q.toJson fields).at? "lexical" (each? Token.ofJson?) = some q.tokens := htokens
  have hnormalized : (q.toJson fields).at? "normalized" (each? Part.ofJson?) = some q.parts :=
    hparts
  have htree : (q.toJson fields).at? "tree" (present? Tree.ofJson?) =
      some (q.tree?.map Tree.unweighted) := present?_tree q.tree?
  rw [ReportedQuery.ofJson?, hlexical, hnormalized, htree]
  rfl

theorem sound_toJson (q : CompiledQuery) (fields : FieldSet) :
    (q.toJson fields).Everywhere Sound := by
  have htokens : (Json.array (q.tokens.map Token.toJson)).Everywhere Sound :=
    sound_array (List.forall_mem_map.2 fun t _ => t.sound_toJson)
  have hparts : (Json.array (q.parts.map Part.toJson)).Everywhere Sound :=
    sound_array (List.forall_mem_map.2 fun p _ => p.sound_toJson)
  have hfields : fields.toJson.Everywhere Sound := by
    refine sound_array (List.forall_mem_map.2 fun f _ => sound_object (by simp) ?_)
    simp [sound_string, sound_ofSingle]
  have hnull : Json.null.Everywhere Sound := ⟨trivial, trivial⟩
  have hbool : ∀ b, (Json.bool b).Everywhere Sound := fun b => ⟨trivial, trivial⟩
  refine sound_object (by simp) ?_
  cases q.tree? with
  | none => simp [sound_string, htokens, hparts, hfields, hnull, hbool]
  | some tree =>
    simp [sound_string, htokens, hparts, hfields, hbool, tree.sound_toJson]

/-- The compact text of a tree tells the tree, and the pretty text of a report all of the query. -/
theorem json_lossless (tree : Tree) (q : CompiledQuery) (fields : FieldSet) :
    Tells Tree.ofJson? tree.toJson.compact tree.unweighted ∧
      Tells ReportedQuery.ofJson? (q.toJson fields).pretty q.reported := by
  have htree := tree.sound_toJson
  have hreport := q.sound_toJson fields
  exact ⟨.of_textOf (textOf_compact (htree.mono fun _ h => h.1)) htree tree.ofJson?_toJson,
    .of_textOf (textOf_pretty (hreport.mono fun _ h => h.1)) hreport (q.ofJson?_toJson fields)⟩

end CompiledQuery

end HelpQuery
