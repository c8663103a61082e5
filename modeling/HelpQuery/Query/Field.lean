import HelpQuery.Number.Layout

/-!
# Searched fields

Every atom of a query is looked for in each of an ordered, non-empty set of fields, weighted by
the field's boost.  A `FieldSet` holds the proof that its names are not empty and its boosts are
finite and positive.
-/

namespace HelpQuery

/-- A field to search and its weight. -/
structure Field where
  name : String
  boost : Single
  deriving DecidableEq

/-- Why a list of fields cannot be searched. -/
inductive FieldError where
  | empty
  | emptyName
  | invalidBoost (field : String) (boost : Single)
  deriving DecidableEq

namespace FieldError

def message : FieldError → String
  | empty => "no search fields configured"
  | emptyName => "search field name must not be empty"
  | invalidBoost field boost =>
    "invalid boost " ++ boost.text ++ " for field '" ++ field
      ++ "': boost must be a positive number"

end FieldError

namespace Field

/-- A name, and a boost that is a finite positive number. -/
def Proper (f : Field) : Prop :=
  f.name ≠ "" ∧ f.boost.isFinite = true ∧ f.boost.isPositive = true

/-- The first thing wrong with a field. -/
def fault? (f : Field) : Option FieldError :=
  if f.name = "" then some .emptyName
  else if f.boost.isFinite ∧ f.boost.isPositive then none
  else some (.invalidBoost f.name f.boost)

theorem fault?_eq_none_iff (f : Field) : f.fault? = none ↔ f.Proper := by
  unfold fault? Proper
  split
  · simp_all
  · split <;> simp_all

end Field

/-- A non-empty ordered list of proper fields. -/
structure FieldSet where
  toList : List Field
  ne_nil : toList ≠ []
  proper : ∀ f ∈ toList, f.Proper

namespace FieldSet

/-- The field set with these fields, or the fault of the first field that has one. -/
def ofList (fields : List Field) : Except FieldError FieldSet :=
  if empty : fields = [] then .error .empty
  else
    match fault : fields.findSome? Field.fault? with
    | some e => .error e
    | none =>
      .ok ⟨fields, empty, fun f hf =>
        (Field.fault?_eq_none_iff f).1 (List.findSome?_eq_none_iff.1 fault f hf)⟩

/-- Fields that share a boost, followed by a default field if there is one. -/
def withBoosts (names : List String) (boost : Single) (default? : Option Field) :
    Except FieldError FieldSet :=
  ofList (names.map (⟨·, boost⟩) ++ default?.toList)

/-- The field searched unless only named fields are. -/
def defaultName : String := "contents"

/-- The boost of a field that is named. -/
def namedBoost : Single := .ofNat 5

/-- The boost of the default field. -/
def defaultBoost : Single := .ofNat 1

/-- The named fields with their usual boost, and the default field unless `namedOnly`. -/
def forSearch (names : List String) (namedOnly : Bool) : Except FieldError FieldSet :=
  withBoosts names namedBoost (if namedOnly then none else some ⟨defaultName, defaultBoost⟩)

def names (fields : FieldSet) : List String := fields.toList.map Field.name

end FieldSet

/-- A boost as a suffix; the neutral boost of one is not written. -/
def boostSuffix (boost : Single) : String :=
  if boost = .ofNat 1 then "" else "^" ++ boost.text

end HelpQuery
