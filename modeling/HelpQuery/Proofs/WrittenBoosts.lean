import HelpQuery.Proofs.WrittenNumbers

/-!
# Boosts in texts

A boost in a query string or a message is written like one in a settings file, but for the fraction
of a whole value.  Its text holds few kinds of characters and can be told from that of any other:

    x.text = y.text → x = y
-/

namespace HelpQuery

/-! ## Shortest digits -/

namespace Digits

/-- The number that digits stand for. -/
def value (d : Digits) : ℚ := d.digits * 10 ^ d.exponent

end Digits

namespace Magnitude

variable {F : Format} {m n : Magnitude F}

/-- The number that the shortest digits stand for is rounded to the magnitude. -/
theorem round?_shortest (hF : 1 < F.precision) (hm : m.mantissa ≠ 0) {tie : TieBreak}
    {num den : ℕ} (h : (num / den : ℚ) = (m.shortest tie).value) : round? num den = some m := by
  obtain ⟨c, g, hshortest, hpoint, -⟩ := m.shortest_spec hm tie
  have hhas := (Neighbourhood.contains_iff m.den_ofMagnitude c g).1
    (Neighbourhood.contains_of_pointOn? hpoint)
  rw [hshortest, Digits.value] at h
  rw [← h] at hhas
  exact m.round?_eq_some hF hm hhas

theorem shortest_value_eq_zero_iff (m : Magnitude F) (tie : TieBreak) :
    (m.shortest tie).value = 0 ↔ m.mantissa = 0 := by
  constructor
  · intro h
    by_contra hm
    rcases mul_eq_zero.1 h with h | h
    · exact m.shortest_digits_ne_zero hm tie (by exact_mod_cast h)
    · exact absurd h (by positivity)
  · intro hm
    rw [shortest, if_pos hm, Digits.value, Nat.cast_zero, zero_mul]

/-- Magnitudes whose shortest digits stand for one number are the same. -/
theorem eq_of_shortest (hF : 1 < F.precision) {tie : TieBreak}
    (h : (m.shortest tie).value = (n.shortest tie).value) : m = n := by
  by_cases hm : m.mantissa = 0
  · have hn : n.mantissa = 0 := by
      rw [← n.shortest_value_eq_zero_iff tie, ← h]
      exact (m.shortest_value_eq_zero_iff tie).2 hm
    exact eq_of_mantissa_eq_zero hm hn
  · have hn : n.mantissa ≠ 0 := by
      rwa [Ne, ← n.shortest_value_eq_zero_iff tie, ← h, m.shortest_value_eq_zero_iff tie]
    let d := m.shortest tie
    have hd : ((d.digits * 10 ^ d.exponent.toNat : ℕ) / (10 ^ (-d.exponent).toNat : ℕ) : ℚ) =
        d.value := by
      rw [Digits.value, ← pow_toNat_div]
      push_cast
      rw [mul_div_assoc]
    have hround := round?_shortest hF hm hd
    rw [round?_shortest hF hn (hd.trans h)] at hround
    exact (Option.some.inj hround).symm

end Magnitude

/-! ## Settings files -/

/-- Digits around a point can be told apart. -/
theorem Pointed.inj {whole fraction whole' fraction' : List Char} (h : Pointed whole fraction)
    (h' : Pointed whole' fraction') {negative negative' : Bool}
    (heq : pointText negative whole fraction = pointText negative' whole' fraction') :
    negative = negative' ∧ whole = whole' ∧ fraction = fraction' := by
  have hsplit := congrArg Decimal.splitSign heq
  rw [h.splitSign_pointText, h'.splitSign_pointText, Prod.mk.injEq] at hsplit
  obtain ⟨hnegative, htext⟩ := hsplit
  have hpoint : ∀ {cs : List Char}, DigitRun cs → '.' ∉ cs := fun hrun => hrun.not_mem (by decide)
  obtain ⟨hwhole, -, hfraction⟩ := (List.append_cons_inj_of_notMem (hpoint h'.whole_run)
    (hpoint h'.fraction_run)).1 htext.symm
  exact ⟨hnegative, hwhole.symm, hfraction.symm⟩

/-! ## Query strings -/

/-- A text of digits with a fraction, which it gets where there is none. -/
def withFraction (text : List Char) : List Char := if '.' ∈ text then text else text ++ ['.', '0']

theorem subset_withFraction (text : List Char) : text ⊆ withFraction text := by
  unfold withFraction
  split
  · exact List.Subset.refl text
  · exact List.subset_append_left text _

theorem withFraction_append {a : List Char} (h : '.' ∉ a) (b : List Char) :
    withFraction (a ++ b) = a ++ withFraction b := by
  have hiff : '.' ∈ a ++ b ↔ '.' ∈ b := by simp [h]
  unfold withFraction
  split
  · next hb => rw [if_pos (hiff.1 hb)]
  · next hb => rw [if_neg fun hin => hb (hiff.2 hin), List.append_assoc]

/-- In settings files only whole values are written in another way. -/
theorem Layout.positionalText_eq (d : Digits) :
    (positionalText ".0" d).toList = withFraction (positionalText "" d).toList := by
  unfold positionalText
  simp only []
  split
  · have hrun := (DigitRun.digitChars d.digits).append_zeros d.exponent.toNat
    simp only [String.toList_append, String.toList_ofList, withFraction]
    rw [String.toList_empty, List.append_nil, if_neg (hrun.not_mem (by decide))]
    rfl
  · split
    · exact (if_pos (by simp)).symm
    · exact (if_pos (by simp)).symm

namespace Single

theorem toml_finite (negative : Bool) (m : Magnitude Format.single) :
    (toml (.finite negative m)).toList = withFraction (text (.finite negative m)).toList := by
  have hwrite : ∀ layout : Layout,
      layout.positional (Layout.leading (m.shortest layout.tie)) = true →
      (layout.write (Binary.finite negative m)).toList = (if negative then ['-'] else []) ++
        (Layout.positionalText layout.wholeEnd (m.shortest layout.tie)).toList := by
    intro layout hpositional
    simp only [Layout.write, hpositional, Bool.or_true, if_true, String.toList_append]
    cases negative <;> rfl
  have hsign : '.' ∉ (if negative then ['-'] else []) := by cases negative <;> decide
  rw [toml, text, hwrite Layout.settings rfl, hwrite Layout.plain rfl, withFraction_append hsign]
  exact congrArg _ (Layout.positionalText_eq (m.shortest .up))

/-- A finite boost is written with digits, a sign and a point. -/
theorem cases_of_mem_finite {negative : Bool} {m : Magnitude Format.single} {c : Char}
    (h : c ∈ (text (.finite negative m)).toList) : c = '-' ∨ c = '.' ∨ c.isDigit = true := by
  obtain ⟨whole, fraction, hspelled, htext⟩ := exists_spelled_toml negative m
  have hc := subset_withFraction _ h
  rw [← toml_finite, htext] at hc
  exact hspelled.cases_of_mem hc

/-- A boost is written with digits, a sign, a point and the letters of three names. -/
theorem cases_of_mem_text {x : Single} {c : Char} (h : c ∈ x.text.toList) :
    c.isDigit = true ∨ c ∈ "-.NaNinf".toList := by
  have hnan : (text .nan).toList ⊆ "-.NaNinf".toList := by decide
  have hinf : ∀ negative, (text (.infinite negative)).toList ⊆ "-.NaNinf".toList := by decide
  cases x with
  | nan => exact Or.inr (hnan h)
  | infinite negative => exact Or.inr (hinf negative h)
  | finite negative m =>
    rcases cases_of_mem_finite h with rfl | rfl | h
    · exact Or.inr (by decide)
    · exact Or.inr (by decide)
    · exact Or.inl h

theorem not_mem_text (x : Single) {c : Char} (hdigit : c.isDigit = false)
    (hother : c ∉ "-.NaNinf".toList) : c ∉ x.text.toList := by
  intro h
  rcases cases_of_mem_text h with h | h
  · rw [hdigit] at h
    cases h
  · exact hother h

/-- What is not finite is written with a letter that no number has. -/
theorem text_finite_ne {negative : Bool} {m : Magnitude Format.single} {x : Single} {c : Char}
    (hc : c ∈ x.text.toList) (hletter : ¬ (c = '-' ∨ c = '.' ∨ c.isDigit = true)) :
    text (.finite negative m) ≠ x.text := by
  intro h
  rw [← h] at hc
  exact hletter (cases_of_mem_finite hc)

/-- Boosts that are written alike are the same. -/
theorem text_inj {x y : Single} (h : x.text = y.text) : x = y := by
  have hnan : 'N' ∈ (text .nan).toList := by decide
  have hinf : ∀ negative, 'i' ∈ (text (.infinite negative)).toList := by decide
  have hother : ∀ negative, text .nan ≠ text (.infinite negative) := by decide
  have hsign : ∀ a b : Bool, text (.infinite a) = text (.infinite b) → a = b := by decide
  cases x with
  | nan =>
    cases y with
    | nan => rfl
    | infinite negative => exact absurd h (hother negative)
    | finite negative m => exact absurd h.symm (text_finite_ne hnan (by decide))
  | infinite negative =>
    cases y with
    | nan => exact absurd h.symm (hother negative)
    | infinite negative' => rw [hsign negative negative' h]
    | finite negative' m => exact absurd h.symm (text_finite_ne (hinf negative) (by decide))
  | finite negative m =>
    cases y with
    | nan => exact absurd h (text_finite_ne hnan (by decide))
    | infinite negative' => exact absurd h (text_finite_ne (hinf negative') (by decide))
    | finite negative' m' =>
      obtain ⟨whole, fraction, hspelled, htext⟩ := exists_spelled_toml negative m
      obtain ⟨whole', fraction', hspelled', htext'⟩ := exists_spelled_toml negative' m'
      have htoml : (toml (.finite negative m)).toList = (toml (.finite negative' m')).toList := by
        rw [toml_finite, toml_finite, h]
      rw [htext, htext'] at htoml
      obtain ⟨rfl, rfl, rfl⟩ := hspelled.inj hspelled'.toPointed htoml
      have hvalue : (m.shortest .up).value = (m'.shortest .up).value :=
        hspelled.value.symm.trans hspelled'.value
      rw [Magnitude.eq_of_shortest (by decide) hvalue]

end Single

end HelpQuery
