import HelpQuery.Files.Path
import Mathlib.Data.List.Infix

/-!
# Names of paths

Paths are told apart by the parts that count.  A name that is joined to a path comes behind its
names, and the ancestors of a path have the initial segments of its names, the longest first:

    (p.join name).names = p.names ++ [name]              for a name that counts
    p.ancestors.map names = p.names.inits.reverse

So no two ancestors are equal paths.
-/

namespace HelpQuery

namespace Path

/-! ## Parts at the end -/

theorem names_concat (rooted : Bool) (parts : List String) (part : String) :
    names ⟨rooted, parts ++ [part]⟩ =
      names ⟨rooted, parts⟩ ++ if counts (!rooted && parts.isEmpty) part then [part] else [] := by
  cases parts with
  | nil => simp [names]
  | cons first rest =>
    simp only [names, List.cons_append, List.filter_append, List.append_assoc, List.isEmpty_cons,
      Bool.and_false]
    cases hpart : counts false part <;> simp [hpart]

theorem names_trimBack (rooted : Bool) (back : List String) :
    names ⟨rooted, (trimBack rooted back).reverse⟩ = names ⟨rooted, back.reverse⟩ := by
  induction back with
  | nil => rfl
  | cons part before ih =>
    rw [trimBack]
    split
    · rfl
    · next hpart =>
      rw [ih, List.reverse_cons, names_concat, List.isEmpty_reverse, if_neg hpart, List.append_nil]

/-- The parts that a name is joined to are those of the path, or those before an empty last one. -/
theorem exists_join_eq (p : Path) (name : String) :
    ∃ parts, p.join name = ⟨p.rooted, parts ++ [name]⟩ ∧ names ⟨p.rooted, parts⟩ = p.names := by
  unfold join
  split
  · next hlast =>
    obtain ⟨parts, hparts⟩ := List.getLast?_eq_some_iff.1 hlast
    refine ⟨parts, by rw [hparts, List.dropLast_concat], ?_⟩
    have hnames : p.names = names ⟨p.rooted, p.parts⟩ := rfl
    rw [hnames, hparts, names_concat]
    simp [counts]
  · exact ⟨p.parts, rfl, rfl⟩

variable {name : String} (hname : ∀ first, counts first name = true)

include hname

theorem names_join (p : Path) : (p.join name).names = p.names ++ [name] := by
  obtain ⟨parts, hjoin, hnames⟩ := p.exists_join_eq name
  rw [hjoin, names_concat, if_pos (hname _), hnames]

/-- What a name is joined to is equal to its parent. -/
theorem parent?_join (p : Path) :
    ∃ q, (p.join name).parent? = some q ∧ q.rooted = p.rooted ∧ q.names = p.names := by
  obtain ⟨parts, hjoin, hnames⟩ := p.exists_join_eq name
  refine ⟨⟨p.rooted, (trimBack p.rooted parts.reverse).reverse⟩, ?_, rfl, ?_⟩
  · rw [hjoin, parent?, List.reverse_append, List.reverse_singleton, List.singleton_append,
      trimBack, if_pos (hname _)]
  · rw [names_trimBack, List.reverse_reverse, hnames]

omit hname

/-! ## Ancestors -/

/-- Every part that counts makes one more ancestor, which has the names before it. -/
theorem names_ancestorsBack (rooted : Bool) (back : List String) :
    names ⟨rooted, back.reverse⟩ ::
        (ancestorsBack rooted back).map (fun b => names ⟨rooted, b.reverse⟩) =
      (names ⟨rooted, back.reverse⟩).inits.reverse := by
  induction back with
  | nil => rfl
  | cons part before ih =>
    rw [ancestorsBack, List.reverse_cons, names_concat, List.isEmpty_reverse]
    split
    · rw [List.map_cons, names_trimBack, ih, List.inits_append]
      simp
    · rw [List.append_nil, ih]

/-- The ancestors of a path have the initial segments of its names, the longest first. -/
theorem names_ancestors (p : Path) : p.ancestors.map names = p.names.inits.reverse := by
  have h := names_ancestorsBack p.rooted p.parts.reverse
  rw [List.reverse_reverse] at h
  rw [ancestors, List.map_cons, List.map_map]
  exact h

/-- No two ancestors have the same names. -/
theorem pairwise_names_ancestors (p : Path) :
    p.ancestors.Pairwise fun dir outer => dir.names ≠ outer.names := by
  have hinits : p.names.inits.Pairwise fun a b => b ≠ a := by
    rw [List.pairwise_iff_getElem]
    intro i j hi hj hij heq
    rw [List.getElem_inits, List.getElem_inits] at heq
    have hlength := congrArg List.length heq
    rw [List.length_inits] at hj
    rw [List.length_take, List.length_take] at hlength
    omega
  rw [← List.pairwise_map (R := (· ≠ ·)), names_ancestors, List.pairwise_reverse]
  exact hinits

end Path

end HelpQuery
