/-!
# Computations that can fail

A sequence of computations gives a result if each of them does, and a traversal of a list stops at
the first element it fails at:

    x >>= f = .ok b ↔ ∃ a, x = .ok a ∧ f a = .ok b
    xs.mapM f = .error e ↔
      ∃ before x after, xs = before ++ x :: after ∧ (f fails nowhere before) ∧ f x = .error e

Over a state, a computation that fails keeps the state it has come to.
-/

namespace HelpQuery

/-! ## Sequences -/

section Sequences

variable {α β ε : Type}

theorem bind_eq_ok_iff {x : Except ε α} {f : α → Except ε β} {b : β} :
    x >>= f = .ok b ↔ ∃ a, x = .ok a ∧ f a = .ok b := by
  cases x with
  | error e => simp [bind, Except.bind]
  | ok a => simp [bind, Except.bind]

theorem pure_eq_ok_iff {a b : α} : (pure a : Except ε α) = .ok b ↔ b = a := by
  show Except.ok a = .ok b ↔ _
  rw [Except.ok.injEq, eq_comm]

theorem throw_ne_ok {e : ε} {a : α} : (throw e : Except ε α) ≠ .ok a := by
  intro h
  cases h

end Sequences

/-! ## Sequences over a state -/

section States

variable {α β ε σ : Type}

theorem run_bind_liftExcept (x : Except ε α) (f : α → ExceptT ε (StateM σ) β) (s : σ) :
    ((liftM x : ExceptT ε (StateM σ) α) >>= f).run.run s =
      match x with
      | .ok a => (f a).run.run s
      | .error e => (.error e, s) := by
  cases x <;> rfl

theorem run_bind_liftState (x : StateM σ α) (f : α → ExceptT ε (StateM σ) β) (s : σ) :
    ((liftM x : ExceptT ε (StateM σ) α) >>= f).run.run s =
      (f (x.run s).1).run.run (x.run s).2 :=
  rfl

end States

/-! ## Traversals -/

/-- A traversal that can fail gives the results of all elements, or the error of one. -/
theorem mapM_cases {α β ε : Type} (f : α → Except ε β) (xs : List α) :
    (∃ ys, xs.mapM f = .ok ys ∧ (∀ x ∈ xs, ∃ y ∈ ys, f x = .ok y) ∧
        ∀ y ∈ ys, ∃ x ∈ xs, f x = .ok y) ∨
      ∃ e, xs.mapM f = .error e ∧ ∃ x ∈ xs, f x = .error e := by
  induction xs with
  | nil => exact Or.inl ⟨[], rfl, by simp, by simp⟩
  | cons x xs ih =>
    rw [List.mapM_cons]
    cases hx : f x with
    | error e => exact Or.inr ⟨e, rfl, x, List.mem_cons_self, hx⟩
    | ok y =>
      rcases ih with ⟨ys, hys, hto, hfrom⟩ | ⟨e, he, z, hz, hfz⟩
      · rw [hys]
        refine Or.inl ⟨y :: ys, rfl, ?_, ?_⟩
        · simpa [hx] using fun z hz => Or.inr (hto z hz)
        · simpa [hx] using fun w hw => Or.inr (hfrom w hw)
      · rw [he]
        exact Or.inr ⟨e, rfl, z, List.mem_cons_of_mem _ hz, hfz⟩

/-- A traversal that can come to nothing gives the results of all elements. -/
theorem mapM_eq_some {α β : Type} {f : α → Option β} {xs : List α} : ∀ {ys : List β},
    xs.mapM f = some ys → ys.length = xs.length ∧ (∀ x ∈ xs, ∃ y ∈ ys, f x = some y) ∧
      ∀ y ∈ ys, ∃ x ∈ xs, f x = some y := by
  induction xs with
  | nil =>
    intro ys h
    obtain rfl : [] = ys := Option.some.inj h
    exact ⟨rfl, nofun, nofun⟩
  | cons x xs ih =>
    intro ys h
    rw [List.mapM_cons] at h
    obtain ⟨y, hy, h⟩ := Option.bind_eq_some_iff.1 h
    obtain ⟨zs, hzs, h⟩ := Option.bind_eq_some_iff.1 h
    obtain rfl : y :: zs = ys := Option.some.inj h
    obtain ⟨hlength, hto, hfrom⟩ := ih hzs
    refine ⟨by rw [List.length_cons, List.length_cons, hlength], ?_, ?_⟩
    · refine List.forall_mem_cons.2 ⟨⟨y, List.mem_cons_self, hy⟩, fun w hw => ?_⟩
      obtain ⟨z, hz, hw⟩ := hto w hw
      exact ⟨z, List.mem_cons_of_mem _ hz, hw⟩
    · refine List.forall_mem_cons.2 ⟨⟨x, List.mem_cons_self, hy⟩, fun z hz => ?_⟩
      obtain ⟨w, hw, hz⟩ := hfrom z hz
      exact ⟨w, List.mem_cons_of_mem _ hw, hz⟩

/-- What is written element by element is read back. -/
theorem mapM_map_eq_some {α β : Type} {write : α → β} {read : β → Option α} {xs : List α}
    (h : ∀ x ∈ xs, read (write x) = some x) : (xs.map write).mapM read = some xs := by
  induction xs with
  | nil => rfl
  | cons x xs ih =>
    obtain ⟨hx, hxs⟩ := List.forall_mem_cons.1 h
    rw [List.map_cons, List.mapM_cons, hx, ih hxs]
    rfl

/-- A traversal fails with the error of the first element that has one. -/
theorem mapM_eq_error_iff {α β ε : Type} (f : α → Except ε β) (xs : List α) (e : ε) :
    xs.mapM f = .error e ↔
      ∃ before x after, xs = before ++ x :: after ∧ (∀ y ∈ before, ∀ e', f y ≠ .error e') ∧
        f x = .error e := by
  induction xs with
  | nil =>
    rw [List.mapM_nil]
    constructor
    · intro h
      cases h
    · rintro ⟨before, x, after, h, -⟩
      simp at h
  | cons x xs ih =>
    rw [List.mapM_cons]
    cases hx : f x with
    | error e₀ =>
      show Except.error e₀ = .error e ↔ _
      constructor
      · rintro ⟨⟩
        exact ⟨[], x, xs, rfl, by simp, hx⟩
      · rintro ⟨_ | ⟨y, before⟩, z, after, h, hbefore, hz⟩
        · obtain ⟨rfl, rfl⟩ := List.cons.inj h
          cases hx.symm.trans hz
          rfl
        · obtain ⟨rfl, rfl⟩ := List.cons.inj h
          exact absurd hx (hbefore x List.mem_cons_self e₀)
    | ok y =>
      have hstep : (Except.ok y >>= fun y => xs.mapM f >>= fun ys => pure (y :: ys)) = .error e ↔
          xs.mapM f = .error e := by
        show (xs.mapM f).bind _ = _ ↔ _
        cases xs.mapM f <;> simp [Except.bind, pure, Except.pure]
      rw [hstep, ih]
      constructor
      · rintro ⟨before, z, after, rfl, hbefore, hz⟩
        refine ⟨x :: before, z, after, rfl, List.forall_mem_cons.2 ⟨?_, hbefore⟩, hz⟩
        simp [hx]
      · rintro ⟨_ | ⟨w, before⟩, z, after, h, hbefore, hz⟩
        · obtain ⟨rfl, rfl⟩ := List.cons.inj h
          rw [hx] at hz
          cases hz
        · obtain ⟨rfl, rfl⟩ := List.cons.inj h
          exact ⟨before, z, after, rfl, (List.forall_mem_cons.1 hbefore).2, hz⟩

end HelpQuery
