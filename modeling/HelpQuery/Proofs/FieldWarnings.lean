import HelpQuery.Proofs.Boosts
import HelpQuery.Proofs.Schemas
import Mathlib.Data.Finset.Card

/-!
# Warnings about fields

The names a query is searched for in are those of the settings, with the default one at the end.
Every name that is there again has one warning for each place but the first, so the names warned of
and the distinct names make up all:

    (s.warnings.filterMap Warning.repeatedName? ++ s.fieldNames.dedup).Perm s.fieldNames

No field warning is given just if the field set is not empty and its schema has a field for each
place.
-/

namespace HelpQuery

/-! ## Names that are there again -/

theorem repeats_concat (name : String) (names : List String) :
    ∀ seen, repeats seen (names ++ [name]) =
      repeats seen names ++ if name ∈ seen ∨ name ∈ names then [name] else [] := by
  induction names with
  | nil =>
    intro seen
    by_cases h : name ∈ seen <;> simp [repeats, h]
  | cons first rest ih =>
    intro seen
    rw [List.cons_append, repeats, repeats]
    split
    · next hfirst =>
      -- a first name seen before is no other reason to have seen the last one
      have hiff : name ∈ seen ∨ name ∈ first :: rest ↔ name ∈ seen ∨ name ∈ rest := by
        rw [List.mem_cons]
        constructor
        · rintro (h | rfl | h)
          · exact Or.inl h
          · exact Or.inl hfirst
          · exact Or.inr h
        · exact Or.imp_right Or.inr
      simp only [ih, hiff, List.cons_append]
    · have hiff : name ∈ first :: seen ∨ name ∈ rest ↔ name ∈ seen ∨ name ∈ first :: rest := by
        rw [List.mem_cons, List.mem_cons, or_assoc, or_left_comm]
      simp only [ih, hiff]

/-- Every name of a list is there for the first time, or again. -/
theorem perm_repeats_distinctNames (names : List String) :
    ∀ seen, (repeats seen names ++ distinctNames seen names).Perm names := by
  induction names with
  | nil =>
    intro seen
    exact .refl _
  | cons first rest ih =>
    intro seen
    rw [repeats, distinctNames]
    split
    · exact (ih seen).cons first
    · exact List.perm_middle.trans ((ih (first :: seen)).cons first)

theorem nodup_distinctNames (seen names : List String) : (distinctNames seen names).Nodup :=
  (pairwise_distinctNames names seen).imp fun hlt heq => by
    rw [heq] at hlt
    exact lt_irrefl _ hlt

theorem dedup_perm_distinctNames (names : List String) :
    names.dedup.Perm (distinctNames [] names) := by
  rw [List.perm_ext_iff_of_nodup names.nodup_dedup (nodup_distinctNames [] names)]
  simp [mem_distinctNames]

theorem repeats_eq_nil_iff (names : List String) : repeats [] names = [] ↔ names.Nodup := by
  have hperm := perm_repeats_distinctNames names []
  constructor
  · intro hnil
    rw [hnil, List.nil_append] at hperm
    exact hperm.nodup_iff.1 (nodup_distinctNames [] names)
  · intro hnodup
    rw [List.eq_nil_iff_forall_not_mem]
    intro name hname
    have hmem : name ∈ names := hperm.mem_iff.1 (List.mem_append_left _ hname)
    have hdistinct : name ∈ distinctNames [] names := by simp [mem_distinctNames, hmem]
    exact List.disjoint_of_nodup_append (hperm.nodup_iff.2 hnodup) hname hdistinct

/-! ## Warnings -/

namespace Warning

/-- The name that a warning says is there again. -/
def repeatedName? : Warning → Option String
  | duplicateField field | defaultFieldNamed field => some field
  | _ => none

/-- Whether a warning is about the fields. -/
def isAboutFields : Warning → Bool
  | duplicateField _ | defaultFieldNamed _ | noSearchableFields => true
  | weakPhraseBoost _ | unusedPhraseBoost => false

theorem isAboutFields_iff (w : Warning) :
    w.isAboutFields = true ↔ w = .noSearchableFields ∨ ∃ name, w.repeatedName? = some name := by
  cases w <;> simp [isAboutFields, repeatedName?]

end Warning

namespace Settings

variable (s : Settings)

/-- The names that queries are searched for in. -/
def fieldNames : List String := s.fields ++ if s.namedOnly then [] else [s.defaultField]

theorem isAboutFields_of_mem_rankingWarnings {w : Warning} (h : w ∈ s.rankingWarnings) :
    w.isAboutFields = false := by
  unfold rankingWarnings at h
  split at h
  · split at h
    · obtain rfl := List.mem_singleton.1 h
      rfl
    · cases h
  · split at h
    · cases h
    · obtain rfl := List.mem_singleton.1 h
      rfl

/-- Each name that is there again is warned of at each of its places but the first. -/
theorem filterMap_repeatedName? :
    s.warnings.filterMap Warning.repeatedName? = repeats [] s.fieldNames := by
  have hranking : s.rankingWarnings.filterMap Warning.repeatedName? = [] := by
    rw [List.filterMap_eq_nil_iff]
    intro w hw
    rw [Option.eq_none_iff_forall_ne_some]
    intro name hname
    have habout := (Warning.isAboutFields_iff w).2 (Or.inr ⟨name, hname⟩)
    rw [s.isAboutFields_of_mem_rankingWarnings hw] at habout
    cases habout
  have hfields : ((repeats [] s.fields).map Warning.duplicateField).filterMap
      Warning.repeatedName? = repeats [] s.fields := by
    rw [List.filterMap_map]
    exact List.filterMap_some
  have hempty : (if s.namedOnly = true ∧ s.fields = [] then [Warning.noSearchableFields]
      else []).filterMap Warning.repeatedName? = [] := by
    split <;> rfl
  rw [warnings, fieldWarnings, List.filterMap_append, List.filterMap_append, List.filterMap_append,
    hranking, hfields, hempty, List.append_nil, List.nil_append, fieldNames]
  cases s.namedOnly with
  | true => simp
  | false =>
    by_cases hdefault : s.defaultField ∈ s.fields <;>
      simp [repeats_concat, hdefault, Warning.repeatedName?]

theorem noSearchableFields_mem_iff : .noSearchableFields ∈ s.warnings ↔ s.fieldNames = [] := by
  have hranking : Warning.noSearchableFields ∉ s.rankingWarnings := fun h =>
    absurd (s.isAboutFields_of_mem_rankingWarnings h) (by decide)
  rw [warnings, fieldWarnings, fieldNames]
  cases s.namedOnly <;> simp [hranking]

/-- A field warning is that of an empty list or of a name that is there again. -/
theorem forall_isAboutFields_eq_false_iff :
    (∀ w ∈ s.warnings, w.isAboutFields = false) ↔
      .noSearchableFields ∉ s.warnings ∧ s.warnings.filterMap Warning.repeatedName? = [] := by
  rw [List.filterMap_eq_nil_iff]
  constructor
  · intro h
    refine ⟨fun hmem => absurd (h _ hmem) (by decide), fun w hw => ?_⟩
    rw [Option.eq_none_iff_forall_ne_some]
    intro name hname
    have habout := (Warning.isAboutFields_iff w).2 (Or.inr ⟨name, hname⟩)
    rw [h w hw] at habout
    cases habout
  · rintro ⟨hnone, hrepeated⟩ w hw
    rw [Bool.eq_false_iff]
    intro habout
    rcases (Warning.isAboutFields_iff w).1 habout with rfl | ⟨name, hname⟩
    · exact hnone hw
    · rw [hrepeated w hw] at hname
      cases hname

/-! ## The field set -/

/-- The fields with these names. -/
def searchedFields : List Field :=
  s.fields.map (⟨·, s.fieldBoost⟩) ++
    (if s.namedOnly then none else some ⟨s.defaultField, s.defaultFieldBoost⟩).toList

theorem fieldSet_eq : s.fieldSet = FieldSet.ofList s.searchedFields := rfl

theorem map_name_searchedFields : s.searchedFields.map Field.name = s.fieldNames := by
  rw [searchedFields, fieldNames]
  cases s.namedOnly <;> simp [Function.comp_def]

theorem names_of_fieldSet {fields : FieldSet} (h : s.fieldSet = .ok fields) :
    fields.names = s.fieldNames := by
  rw [fieldSet_eq] at h
  rw [FieldSet.names, FieldSet.toList_of_ofList h, map_name_searchedFields]

end Settings

theorem Field.fault?_ne_empty (f : Field) : f.fault? ≠ some .empty := by
  unfold fault?
  split
  · simp
  · split <;> simp

/-- Only an empty list of fields is refused for being empty. -/
theorem FieldSet.ofList_eq_empty_iff (fields : List Field) :
    ofList fields = .error .empty ↔ fields = [] := by
  unfold ofList
  split
  · next hnil => simp [hnil]
  · next hne =>
    split
    · next e hfault =>
      obtain ⟨f, -, hf⟩ := List.exists_of_findSome?_eq_some hfault
      have he : e ≠ .empty := by
        rintro rfl
        exact f.fault?_ne_empty hf
      simp [hne, he]
    · simp [hne]

namespace Settings

variable (s : Settings)

theorem fieldSet_eq_empty_iff : s.fieldSet = .error .empty ↔ s.fieldNames = [] := by
  rw [fieldSet_eq, FieldSet.ofList_eq_empty_iff, ← map_name_searchedFields, List.map_eq_nil_iff]

/-- A missing field is warned of just if the field set is refused for being empty, that is if there
are no names.  The names warned of are, one for each warning, those of the list that are there
again.  So no warning about fields is given just if there are names, all of them different.  A field
set has the names in order, and its schema the key and then each other name once. -/
theorem fieldWarnings_agree :
    (.noSearchableFields ∈ s.warnings ↔ s.fieldSet = .error .empty) ∧
    (s.fieldSet = .error .empty ↔ s.fieldNames = []) ∧
    (s.warnings.filterMap Warning.repeatedName? ++ s.fieldNames.dedup).Perm s.fieldNames ∧
    (s.warnings.filterMap Warning.repeatedName?).length + s.fieldNames.toFinset.card =
      s.fieldNames.length ∧
    ((∀ w ∈ s.warnings, w.isAboutFields = false) ↔ s.fieldNames ≠ [] ∧ s.fieldNames.Nodup) ∧
    ∀ fields, s.fieldSet = .ok fields →
      fields.names = s.fieldNames ∧ ∃ others,
        (Schema.ofFieldSet fields).fields.map SchemaField.name = Schema.keyName :: others ∧
          others.Nodup ∧ ∀ name, name ∈ others ↔ name ∈ s.fieldNames ∧ name ≠ Schema.keyName := by
  have hperm : (s.warnings.filterMap Warning.repeatedName? ++ s.fieldNames.dedup).Perm
      s.fieldNames := by
    rw [filterMap_repeatedName?]
    exact ((dedup_perm_distinctNames _).append_left _).trans (perm_repeats_distinctNames _ [])
  refine ⟨?_, s.fieldSet_eq_empty_iff, hperm, ?_, ?_, fun fields hfields => ?_⟩
  · rw [noSearchableFields_mem_iff, fieldSet_eq_empty_iff]
  · rw [List.card_toFinset, ← List.length_append, hperm.length_eq]
  · rw [forall_isAboutFields_eq_false_iff, noSearchableFields_mem_iff, filterMap_repeatedName?,
      repeats_eq_nil_iff]
  · have hnames := s.names_of_fieldSet hfields
    refine ⟨hnames, _, Schema.map_name_ofFieldSet fields, nodup_distinctNames _ _, fun name => ?_⟩
    rw [mem_distinctNames, hnames, List.mem_singleton]

/-- Settings that name a field three times, the default field among others. -/
def repetitiveSettings : Settings :=
  { Settings.default with fields := ["title", "contents", "title", "title"] }

theorem fieldWarnings_agree_repetitive :
    repetitiveSettings.warnings =
        [.duplicateField "title", .duplicateField "title", .defaultFieldNamed "contents"] ∧
      ∃ fields, repetitiveSettings.fieldSet = .ok fields ∧
        fields.names = ["title", "contents", "title", "title", "contents"] := by
  have hwarnings : repetitiveSettings.warnings =
      [.duplicateField "title", .duplicateField "title", .defaultFieldNamed "contents"] := by
    decide +kernel
  have hok : repetitiveSettings.fieldSet.isOk = true := by decide +kernel
  cases hfields : repetitiveSettings.fieldSet with
  | error e =>
    rw [hfields] at hok
    cases hok
  | ok fields =>
    exact ⟨hwarnings, fields, rfl,
      (repetitiveSettings.fieldWarnings_agree.2.2.2.2.2 fields hfields).1⟩

end Settings

end HelpQuery
