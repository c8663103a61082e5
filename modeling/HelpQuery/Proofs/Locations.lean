import HelpQuery.Proofs.Discovery
import HelpQuery.Proofs.Fallible

/-!
# Where paths lead

A path that can be followed leads to the location its parts spell, so equal paths that can both be
followed lead to the same location:

    fs.follow loc parts = .ok l → l = parts.foldl step loc

Which paths can be followed is settled by the directories.  Writing a file leaves all of them, and
changes what stands at a single location.
-/

namespace HelpQuery

namespace FileSystem

/-! ## Following paths -/

/-- The location a part leads to from a directory. -/
def step (loc : Location) (part : String) : Location :=
  if part = "" ∨ part = "." then loc
  else if part = ".." then loc.dropLast
  else loc ++ [part]

theorem follow_cons_eq_ok_iff (fs : FileSystem) (loc : Location) (part : String)
    (rest : List String) (l : Location) :
    fs.follow loc (part :: rest) = .ok l ↔
      fs.at? loc = some .directory ∧ part.utf8ByteSize ≤ nameLimit ∧
        fs.follow (step loc part) rest = .ok l := by
  rw [follow, step]
  split
  · next hat => simp [hat]
  · next hat => simp [hat]
  · next hat =>
    -- the parts that are no names are all short enough
    split
    · next hstay =>
      have hshort : part.utf8ByteSize ≤ nameLimit := by rcases hstay with rfl | rfl <;> decide
      simp [hat, hshort]
    · split
      · next hup =>
        have hshort : part.utf8ByteSize ≤ nameLimit := by
          subst hup
          decide
        simp [hat, hshort]
      · split
        · next hlong => simp [Nat.not_le.2 hlong]
        · next hlong => simp [hat, Nat.not_lt.1 hlong]

/-- A path that can be followed leads where its parts say. -/
theorem follow_eq_foldl {fs : FileSystem} {parts : List String} {l : Location} :
    ∀ {loc}, fs.follow loc parts = .ok l → l = parts.foldl step loc := by
  induction parts with
  | nil =>
    intro loc h
    exact (Except.ok.inj h).symm
  | cons part rest ih =>
    intro loc h
    exact ih ((follow_cons_eq_ok_iff fs loc part rest l).1 h).2.2

/-- Two file systems have the same directories. -/
def SameDirectories (fs fs' : FileSystem) : Prop :=
  ∀ l, fs.at? l = some .directory ↔ fs'.at? l = some .directory

theorem follow_congr {fs fs' : FileSystem} (h : fs.SameDirectories fs') (parts : List String)
    (l : Location) : ∀ loc, fs.follow loc parts = .ok l ↔ fs'.follow loc parts = .ok l := by
  induction parts with
  | nil =>
    intro loc
    exact Iff.rfl
  | cons part rest ih =>
    intro loc
    rw [follow_cons_eq_ok_iff, follow_cons_eq_ok_iff, h loc, ih]

theorem locate_eq_ok_iff (fs : FileSystem) (p : Path) (l : Location) :
    fs.locate p = .ok l ↔ checkPath p = .ok () ∧ fs.follow [] p.parts = .ok l := by
  unfold locate
  rw [bind_eq_ok_iff]
  exact ⟨fun ⟨(), h⟩ => h, fun h => ⟨(), h⟩⟩

theorem locate_congr {fs fs' : FileSystem} (h : fs.SameDirectories fs') (p : Path) (l : Location) :
    fs.locate p = .ok l ↔ fs'.locate p = .ok l := by
  rw [locate_eq_ok_iff, locate_eq_ok_iff, follow_congr h]

/-- A part that does not count leads nowhere. -/
theorem step_of_not_counts {first : Bool} {part : String} (h : ¬ Path.counts first part = true)
    (loc : Location) : step loc part = loc := by
  have hpart : part = "" ∨ part = "." := by
    simp only [Bool.not_eq_true, Path.counts, Bool.and_eq_false_iff, Bool.or_eq_false_iff,
      bne_eq_false_iff_eq] at h
    exact h.imp_right And.left
  rw [step, if_pos hpart]

theorem foldl_step_filter (parts : List String) :
    ∀ loc, (parts.filter (Path.counts false)).foldl step loc = parts.foldl step loc := by
  induction parts with
  | nil =>
    intro loc
    rfl
  | cons part rest ih =>
    intro loc
    rw [List.filter_cons, List.foldl_cons]
    split
    · rw [List.foldl_cons, ih]
    · next hpart => rw [step_of_not_counts hpart, ih]

/-- The names of a path lead where its parts do. -/
theorem foldl_step_names (p : Path) (loc : Location) :
    p.names.foldl step loc = p.parts.foldl step loc := by
  unfold Path.names
  cases p.parts with
  | nil => rfl
  | cons part rest =>
    simp only [List.foldl_append, foldl_step_filter, List.foldl_cons]
    split
    · rfl
    · next hpart => rw [List.foldl_nil, step_of_not_counts hpart]

/-- Equal paths that can be followed lead to the same location. -/
theorem locate_same {fs : FileSystem} {p q : Path} (h : p.same q = true) {l l' : Location}
    (hp : fs.locate p = .ok l) (hq : fs.locate q = .ok l') : l = l' := by
  have hnames : p.names = q.names := by simp_all [Path.same]
  rw [locate_eq_ok_iff] at hp hq
  rw [follow_eq_foldl hp.2, follow_eq_foldl hq.2, ← foldl_step_names p, ← foldl_step_names q,
    hnames]

/-! ## What stands at a path -/

theorem entry?_eq_ok_iff (fs : FileSystem) (p : Path) (e : Entry) :
    fs.entry? p = .ok e ↔ ∃ l, fs.locate p = .ok l ∧ fs.at? l = some e := by
  unfold entry?
  rw [bind_eq_ok_iff]
  refine exists_congr fun l => and_congr_right fun _ => ?_
  cases fs.at? l with
  | none => simp [throw_ne_ok]
  | some e' => rw [pure_eq_ok_iff, Option.some.injEq, eq_comm]

theorem exists?_eq_false_iff {fs : FileSystem} {p : Path} {loc : Location}
    (h : fs.locate p = .ok loc) : fs.exists? p = false ↔ fs.at? loc = none := by
  have hexists : fs.exists? p = (fs.at? loc).isSome := by
    unfold exists? entry?
    rw [h]
    simp only [bind, Except.bind]
    cases fs.at? loc <;> rfl
  rw [hexists, Option.isSome_eq_false_iff, Option.isNone_iff_eq_none]

theorem content?_eq_some_iff (fs : FileSystem) (p : Path) (content : Except FileError String) :
    fs.content? p = some content ↔ ∃ l, fs.locate p = .ok l ∧ fs.at? l = some (.file content) := by
  rw [← entry?_eq_ok_iff]
  unfold content?
  split
  · next c hentry => simp [hentry]
  · next hnone =>
    constructor
    · intro h
      cases h
    · intro h
      exact absurd h (hnone content)

/-! ## Writing -/

theorem at?_put_self (fs : FileSystem) {loc : Location} (h : loc ≠ []) (e : Entry) :
    (fs.put loc e).at? loc = some e := by
  rw [at?, if_neg h, put, List.lookup_cons_self]

theorem at?_put_of_ne (fs : FileSystem) {loc l : Location} (h : l ≠ loc) (e : Entry) :
    (fs.put loc e).at? l = fs.at? l := by
  have hfilter : (fs.entries.filter (·.1 ≠ loc)).lookup l = fs.entries.lookup l := by
    induction fs.entries with
    | nil => rfl
    | cons entry entries ih =>
      obtain ⟨k, e'⟩ := entry
      rw [List.filter_cons]
      split
      · rw [List.lookup_cons, List.lookup_cons, ih]
      · next hk =>
        have hkl : (l == k) = false := by
          rw [beq_eq_false_iff_ne]
          rintro rfl
          exact hk (by simpa using h)
        rw [List.lookup_cons, hkl, ih]
  have hcons : (l == loc) = false := by simpa using h
  simp only [at?, put, List.lookup_cons, hcons, hfilter]

theorem ne_nil_of_at? {fs : FileSystem} {loc : Location} (h : fs.at? loc ≠ some .directory) :
    loc ≠ [] := by
  rintro rfl
  exact h (by rw [at?, if_pos rfl])

/-- A file in place of anything but a directory leaves the directories. -/
theorem sameDirectories_put {fs : FileSystem} {loc : Location}
    (h : fs.at? loc ≠ some .directory) (content : Except FileError String) :
    fs.SameDirectories (fs.put loc (.file content)) := by
  intro l
  by_cases hl : l = loc
  · subst hl
    rw [at?_put_self fs (ne_nil_of_at? h)]
    simp [h]
  · rw [at?_put_of_ne fs hl]

/-- A new file is found wherever a path leads to it, and all others as before. -/
theorem content?_put {fs : FileSystem} {loc : Location} (h : fs.at? loc = none)
    (content c : Except FileError String) (p : Path) :
    (fs.put loc (.file content)).content? p = some c ↔
      fs.content? p = some c ∨ fs.locate p = .ok loc ∧ c = content := by
  have hdir : fs.at? loc ≠ some .directory := by simp [h]
  simp only [content?_eq_some_iff, ← locate_congr (sameDirectories_put hdir content)]
  constructor
  · rintro ⟨l, hl, hat⟩
    by_cases heq : l = loc
    · subst heq
      rw [at?_put_self fs (ne_nil_of_at? hdir)] at hat
      cases hat
      exact Or.inr ⟨hl, rfl⟩
    · rw [at?_put_of_ne fs heq] at hat
      exact Or.inl ⟨l, hl, hat⟩
  · rintro (⟨l, hl, hat⟩ | ⟨hl, rfl⟩)
    · have heq : l ≠ loc := by
        rintro rfl
        rw [h] at hat
        cases hat
      exact ⟨l, hl, by rw [at?_put_of_ne fs heq, hat]⟩
    · exact ⟨loc, hl, at?_put_self fs (ne_nil_of_at? hdir) _⟩

/-- A file is written wherever a path leads and no directory stands. -/
theorem write_eq_ok_iff (fs : FileSystem) (p : Path) (content : Except FileError String)
    (fs' : FileSystem) :
    fs.write p content = .ok fs' ↔
      ∃ loc, fs.locate p = .ok loc ∧ fs.at? loc ≠ some .directory ∧
        fs' = fs.put loc (.file content) := by
  unfold write
  rw [bind_eq_ok_iff]
  refine exists_congr fun loc => and_congr_right fun _ => ?_
  split
  · next hdir => simp [hdir, throw_ne_ok]
  · next hdir =>
    rw [pure_eq_ok_iff]
    exact (and_iff_right hdir).symm

end FileSystem

end HelpQuery
