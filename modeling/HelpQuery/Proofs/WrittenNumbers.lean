import HelpQuery.Proofs.Segments
import HelpQuery.Proofs.TwiceRounded
import HelpQuery.Settings.Printer
import HelpQuery.Toml.Scalar
import Mathlib.Data.List.TakeWhile
import Mathlib.Tactic.SplitIfs

/-!
# Written numbers

A boost is written by name or as two runs of digits with a point between them.  The reader of
scalars makes of such a text what the reader of numerals does, so what is read back from a settings
file is what the numeral is rounded to, by way of 64 bits:

    scalar? x.toml.toList = some (.float x.stored) ∧ x.stored.convert .single = x.reread

and that is the boost itself, with a single exception.
-/

namespace HelpQuery

/-! ## Digits that are written -/

theorem head?_toDigits {n : Nat} (h : n ≠ 0) : (Nat.toDigits 10 n).head? ≠ some '0' := by
  induction n using Nat.strongRecOn with
  | ind n ih =>
    rcases Nat.lt_or_ge n 10 with hn | hn
    · rw [Nat.toDigits_of_lt_base hn]
      intro h0
      exact h (Nat.digitChar_eq_zero.1 (Option.some.inj h0))
    · rw [Nat.toDigits_of_base_le (by decide) hn, List.head?_append_of_ne_nil _ Nat.toDigits_ne_nil]
      exact ih (n / 10) (Nat.div_lt_self (by omega) (by decide)) (by omega)

/-! ## Texts with a point -/

/-- Digits, one at least. -/
structure DigitRun (cs : List Char) : Prop where
  digit : ∀ c ∈ cs, c.isDigit = true
  ne_nil : cs ≠ []

namespace DigitRun

variable {cs : List Char}

theorem not_mem (h : DigitRun cs) {c : Char} (hc : c.isDigit = false) : c ∉ cs := by
  intro hmem
  rw [h.digit c hmem] at hc
  cases hc

theorem head (h : DigitRun cs) : ∃ c rest, cs = c :: rest ∧ c.isDigit = true := by
  cases cs with
  | nil => exact absurd rfl h.ne_nil
  | cons c rest => exact ⟨c, rest, rfl, h.digit c List.mem_cons_self⟩

theorem zero : DigitRun ['0'] := ⟨by simp, by simp⟩

theorem digitChars (n : Nat) : DigitRun (Layout.digitChars n) :=
  ⟨fun _ hc => Nat.isDigit_of_mem_toDigits (by decide) (by decide) hc, Nat.toDigits_ne_nil⟩

theorem isDigit_of_mem_zeros {k : Nat} {c : Char} (h : c ∈ List.replicate k '0') :
    c.isDigit = true := by
  rw [List.eq_of_mem_replicate h]
  decide

theorem append_zeros (h : DigitRun cs) (k : Nat) : DigitRun (cs ++ List.replicate k '0') := by
  refine ⟨fun c hc => ?_, List.append_ne_nil_of_left_ne_nil h.ne_nil _⟩
  rcases List.mem_append.1 hc with hc | hc
  · exact h.digit c hc
  · exact isDigit_of_mem_zeros hc

theorem zeros_append (h : DigitRun cs) (k : Nat) : DigitRun (List.replicate k '0' ++ cs) := by
  refine ⟨fun c hc => ?_, List.append_ne_nil_of_right_ne_nil _ h.ne_nil⟩
  rcases List.mem_append.1 hc with hc | hc
  · exact isDigit_of_mem_zeros hc
  · exact h.digit c hc

theorem take (h : DigitRun cs) {k : Nat} (hk : k ≠ 0) : DigitRun (cs.take k) := by
  refine ⟨fun c hc => h.digit c (List.mem_of_mem_take hc), ?_⟩
  rw [Ne, List.take_eq_nil_iff, not_or]
  exact ⟨hk, h.ne_nil⟩

theorem drop (h : DigitRun cs) {k : Nat} (hk : k < cs.length) : DigitRun (cs.drop k) := by
  refine ⟨fun c hc => h.digit c (List.mem_of_mem_drop hc), ?_⟩
  rw [Ne, List.drop_eq_nil_iff]
  omega

end DigitRun

/-- A whole part and a fraction, the whole part without a zero in front. -/
structure Pointed (whole fraction : List Char) : Prop where
  whole_run : DigitRun whole
  no_zero : whole.head? = some '0' → whole = ['0']
  fraction_run : DigitRun fraction

/-- A sign, a whole part, a point and a fraction. -/
def pointText (negative : Bool) (whole fraction : List Char) : List Char :=
  (if negative then ['-'] else []) ++ (whole ++ '.' :: fraction)

/-- A whole part and a fraction that stand for decimal digits. -/
structure Spelled (d : Digits) (whole fraction : List Char) : Prop
    extends Pointed whole fraction where
  value : (Decimal.ofDigits (whole ++ fraction) / 10 ^ fraction.length : ℚ) =
    d.digits * 10 ^ d.exponent
  places : (fraction.length : ℤ) ≤ max 1 (-d.exponent)

theorem Layout.ofDigits_digitChars (n : ℕ) : Decimal.ofDigits (digitChars n) = n :=
  Nat.ofDigitChars_ten_toDigits

/-- Zeros behind the digits shift them, zeros in front do not count. -/
theorem Decimal.ofDigits_append_zeros (cs : List Char) (k : ℕ) :
    ofDigits (cs ++ List.replicate k '0') = 10 ^ k * ofDigits cs := by
  show Nat.ofDigitChars 10 _ 0 = _
  rw [Nat.ofDigitChars_append, Nat.ofDigitChars_replicate_zero]
  rfl

theorem Decimal.ofDigits_zeros_append (cs : List Char) (k : ℕ) :
    ofDigits (List.replicate k '0' ++ cs) = ofDigits cs := by
  show Nat.ofDigitChars 10 _ 0 = _
  rw [Nat.ofDigitChars_append, Nat.ofDigitChars_replicate_zero, Nat.mul_zero]
  rfl

namespace Spelled

variable {d : Digits} {ds : List Char} (hrun : DigitRun ds)
  (hdigits : Decimal.ofDigits ds = d.digits)
  (hzero : ds.head? = some '0' → d.exponent ≤ 0 ∧ ds = ['0'])

include hdigits in
/-- A negative exponent is the number of digits behind the point. -/
theorem div_pow_eq (hexp : d.exponent < 0) :
    (Decimal.ofDigits ds / 10 ^ (-d.exponent).toNat : ℚ) = d.digits * 10 ^ d.exponent := by
  rw [hdigits, ← zpow_natCast, Int.toNat_of_nonneg (by omega), zpow_neg, div_inv_eq_mul]

include hrun hdigits

theorem behind_zeros (hexp : d.exponent < 0) (hplaces : ds.length ≤ (-d.exponent).toNat) :
    Spelled d ['0'] (List.replicate ((-d.exponent).toNat - ds.length) '0' ++ ds) := by
  have hlength : (List.replicate ((-d.exponent).toNat - ds.length) '0' ++ ds).length =
      (-d.exponent).toNat := by
    rw [List.length_append, List.length_replicate, Nat.sub_add_cancel hplaces]
  refine ⟨⟨.zero, fun _ => rfl, hrun.zeros_append _⟩, ?_, ?_⟩
  · rw [hlength, show ['0'] = List.replicate 1 '0' from rfl, Decimal.ofDigits_zeros_append,
      Decimal.ofDigits_zeros_append, div_pow_eq hdigits hexp]
  · rw [hlength]
    omega

include hzero

theorem before_zeros (hexp : 0 ≤ d.exponent) :
    Spelled d (ds ++ List.replicate d.exponent.toNat '0') ['0'] := by
  refine ⟨⟨hrun.append_zeros _, fun h => ?_, .zero⟩, ?_, le_max_left 1 _⟩
  · rw [List.head?_append_of_ne_nil _ hrun.ne_nil] at h
    obtain ⟨hle, hds⟩ := hzero h
    have he : d.exponent.toNat = 0 := by omega
    rw [hds, he]
    rfl
  · have hpow : (10 : ℚ) ^ d.exponent = 10 ^ d.exponent.toNat := by
      rw [← zpow_natCast, Int.toNat_of_nonneg hexp]
    rw [show ['0'] = List.replicate 1 '0' from rfl, Decimal.ofDigits_append_zeros,
      Decimal.ofDigits_append_zeros, hdigits, hpow, List.length_replicate]
    push_cast
    ring

theorem around_point (hexp : d.exponent < 0) {k : ℕ} (hk : k = ds.length - (-d.exponent).toNat)
    (hplaces : (-d.exponent).toNat < ds.length) : Spelled d (ds.take k) (ds.drop k) := by
  have hpos : k ≠ 0 := by omega
  have hlt : k < ds.length := by omega
  have hlength : (ds.drop k).length = (-d.exponent).toNat := by
    rw [List.length_drop]
    omega
  refine ⟨⟨hrun.take hpos, fun h => ?_, hrun.drop hlt⟩, ?_, ?_⟩
  · rw [List.head?_take, if_neg hpos] at h
    obtain ⟨-, hds⟩ := hzero h
    rw [hds, List.length_singleton] at hlt
    omega
  · rw [hlength, List.take_append_drop, div_pow_eq hdigits hexp]
  · rw [hlength]
    omega

end Spelled

/-- Positional notation has a point between digits, and no zero in front if zeros have none. -/
theorem exists_spelled (d : Digits) (hzero : d.digits = 0 → d.exponent ≤ 0) :
    ∃ whole fraction, Spelled d whole fraction ∧
      (Layout.positionalText ".0" d).toList = whole ++ '.' :: fraction := by
  have hrun : DigitRun (Layout.digitChars d.digits) := .digitChars d.digits
  have hdigits := Layout.ofDigits_digitChars d.digits
  have hfirst : (Layout.digitChars d.digits).head? = some '0' →
      d.exponent ≤ 0 ∧ Layout.digitChars d.digits = ['0'] := by
    intro h
    by_cases hd : d.digits = 0
    · exact ⟨hzero hd, by rw [hd]; rfl⟩
    · exact absurd h (head?_toDigits hd)
  unfold Layout.positionalText
  simp only []
  generalize Layout.digitChars d.digits = ds at *
  by_cases hexp : 0 ≤ d.exponent
  · rw [if_pos hexp]
    refine ⟨_, _, .before_zeros hrun hdigits hfirst hexp, ?_⟩
    simp only [String.toList_append, String.toList_ofList]
    rfl
  · rw [if_neg hexp]
    rw [not_le] at hexp
    by_cases hplaces : ds.length ≤ (-d.exponent).toNat
    · rw [if_pos hplaces]
      refine ⟨_, _, .behind_zeros hrun hdigits hexp hplaces, ?_⟩
      simp only [String.toList_append, String.toList_ofList]
      rfl
    · rw [if_neg hplaces]
      refine ⟨_, _, .around_point hrun hdigits hfirst hexp rfl (not_le.1 hplaces), ?_⟩
      simp only [String.toList_append, String.toList_ofList, List.append_assoc]
      rfl

/-- Every finite boost is written with a point. -/
theorem exists_spelled_toml (negative : Bool) (m : Magnitude Format.single) :
    ∃ whole fraction, Spelled (m.shortest .up) whole fraction ∧
      (Single.toml (.finite negative m)).toList = pointText negative whole fraction := by
  obtain ⟨whole, fraction, hspelled, htext⟩ :=
    exists_spelled (m.shortest .up) (m.shortest_exponent .up)
  refine ⟨whole, fraction, hspelled, ?_⟩
  have hwrite : Single.toml (.finite negative m) =
      (if negative then "-" else "") ++ Layout.positionalText ".0" (m.shortest .up) := by
    have hpositional : ((m.shortest .up).digits = 0 || Layout.settings.positional
        (Layout.leading (m.shortest .up))) = true := Bool.or_true _
    exact congrArg (_ ++ ·) (if_pos hpositional)
  rw [hwrite, String.toList_append, htext]
  cases negative <;> rfl

/-! ## Reading a text with a point -/

/-! ### As a numeral -/

namespace Pointed

variable {whole fraction : List Char}

theorem splitSign_pointText (h : Pointed whole fraction) (negative : Bool) :
    Decimal.splitSign (pointText negative whole fraction) =
      (negative, whole ++ '.' :: fraction) := by
  obtain ⟨c, cs, rfl, hc⟩ := h.whole_run.head
  cases negative with
  | true => rfl
  | false =>
    show Decimal.splitSign (c :: (cs ++ '.' :: fraction)) = _
    unfold Decimal.splitSign
    split
    · next heq =>
      obtain ⟨rfl, -⟩ := List.cons.inj heq
      exact absurd hc (by decide)
    · next heq =>
      obtain ⟨rfl, -⟩ := List.cons.inj heq
      exact absurd hc (by decide)
    · rfl

theorem decimal_read? (h : Pointed whole fraction) (negative : Bool) :
    Decimal.read? (pointText negative whole fraction) =
      some (.ofParts negative whole fraction 0) := by
  have hpoint : ¬ Char.isDigit '.' = true := by decide
  have hwhole : (whole ++ '.' :: fraction).takeWhile Char.isDigit = whole := by
    rw [List.takeWhile_append_of_pos h.whole_run.digit, List.takeWhile_cons_of_neg hpoint,
      List.append_nil]
  have hrest : (whole ++ '.' :: fraction).dropWhile Char.isDigit = '.' :: fraction := by
    rw [List.dropWhile_append_of_pos h.whole_run.digit, List.dropWhile_cons_of_neg hpoint]
  have hfraction : fraction.takeWhile Char.isDigit = fraction :=
    List.takeWhile_eq_self_iff.2 h.fraction_run.digit
  have htail : fraction.dropWhile Char.isDigit = [] :=
    List.dropWhile_eq_nil_iff.2 h.fraction_run.digit
  unfold Decimal.read?
  rw [h.splitSign_pointText negative]
  simp only [hwhole, hrest, hfraction, htail]
  rw [if_neg fun hnil => h.whole_run.ne_nil hnil.1]
  rfl

theorem binary_read? {F : Format} (h : Pointed whole fraction) (negative : Bool) {text : String}
    (htext : text.toList = pointText negative whole fraction) :
    (Binary.read? text : Option (Binary F)) =
      some (Decimal.ofParts negative whole fraction 0).toBinary := by
  have hpoint : '.' ∈ (whole ++ '.' :: fraction).map Char.toLower :=
    List.mem_map.2 ⟨'.', by simp, by decide⟩
  have hname : ∀ name : String, '.' ∉ name.toList →
      (whole ++ '.' :: fraction).map Char.toLower ≠ name.toList :=
    fun name hnot heq => hnot (heq ▸ hpoint)
  unfold Binary.read?
  rw [htext, h.splitSign_pointText negative]
  simp only []
  rw [if_neg (not_or.2 ⟨hname "inf" (by decide), hname "infinity" (by decide)⟩),
    if_neg (hname "nan" (by decide)), h.decimal_read? negative]
  rfl

end Pointed

/-! ### As a scalar -/

namespace Toml

/-- What holds anything but digits and underscores is no number. -/
theorem ungroup?_of_mem {isDigit : Char → Bool} {c : Char} {cs : List Char} (hc : c ∈ cs)
    (hdigit : isDigit c = false) (hunderscore : c ≠ '_') : ungroup? isDigit cs = none := by
  have hflat : c ∈ (segments (· == '_') cs).flatten := by
    rw [flatten_segments]
    exact List.mem_filter.2 ⟨hc, by simpa using hunderscore⟩
  obtain ⟨g, hg, hcg⟩ := List.mem_flatten.1 hflat
  unfold ungroup?
  refine if_neg fun hall => ?_
  have hdigits := (Bool.and_eq_true_iff.1 (List.all_eq_true.1 hall g hg)).2
  have hin := List.all_eq_true.1 hdigits c hcg
  rw [hdigit] at hin
  cases hin

theorem decimalDigits?_of_mem {c : Char} {cs : List Char} (hc : c ∈ cs)
    (hdigit : c.isDigit = false) (hunderscore : c ≠ '_') : decimalDigits? cs = none := by
  unfold decimalDigits?
  rw [ungroup?_of_mem hc hdigit hunderscore]

end Toml

namespace DigitRun

variable {cs : List Char}

/-- A separator that is no digit separates nothing in a run. -/
theorem segments_eq (h : DigitRun cs) {c : Char} (hc : c.isDigit = false) :
    segments (· == c) cs = [cs] := by
  refine segments_of_free _ fun d hd => beq_eq_false_iff_ne.2 ?_
  rintro rfl
  exact h.not_mem hc hd

theorem ungroup?_eq (h : DigitRun cs) : Toml.ungroup? Char.isDigit cs = some cs := by
  have hall : cs.all Char.isDigit = true := List.all_eq_true.2 h.digit
  unfold Toml.ungroup?
  rw [h.segments_eq (by decide)]
  simp [h.ne_nil, hall]

theorem decimalDigits?_eq (h : DigitRun cs) (hzero : cs.head? = some '0' → cs = ['0']) :
    Toml.decimalDigits? cs = some cs := by
  unfold Toml.decimalDigits?
  rw [h.ungroup?_eq]
  split
  · next heq =>
    rw [Option.some.inj heq] at hzero
    cases hzero rfl
  · rfl

end DigitRun

namespace Pointed

variable {whole fraction : List Char}

theorem point_mem (negative : Bool) : '.' ∈ pointText negative whole fraction := by
  simp [pointText]

/-- There are but digits around the point. -/
theorem cases_of_mem (h : Pointed whole fraction) {negative : Bool} {c : Char}
    (hc : c ∈ pointText negative whole fraction) : c = '-' ∨ c = '.' ∨ c.isDigit = true := by
  rcases List.mem_append.1 hc with hc | hc
  · cases negative with
    | true => exact Or.inl (List.mem_singleton.1 hc)
    | false => cases hc
  · rcases List.mem_append.1 hc with hc | hc
    · exact Or.inr (Or.inr (h.whole_run.digit c hc))
    · rcases List.mem_cons.1 hc with hc | hc
      · exact Or.inr (Or.inl hc)
      · exact Or.inr (Or.inr (h.fraction_run.digit c hc))

theorem integer?_pointText (h : Pointed whole fraction) (negative : Bool) :
    Toml.integer? (pointText negative whole fraction) = none := by
  have hbase : ∀ c ds, ¬ (c = '-' ∨ c = '.' ∨ c.isDigit = true) →
      pointText negative whole fraction ≠ '0' :: c :: ds := by
    intro c ds hc heq
    have hmem : c ∈ pointText negative whole fraction := by simp [heq]
    exact hc (h.cases_of_mem hmem)
  unfold Toml.integer?
  split
  · next ds heq => exact absurd heq (hbase 'x' ds (by decide))
  · next ds heq => exact absurd heq (hbase 'o' ds (by decide))
  · next ds heq => exact absurd heq (hbase 'b' ds (by decide))
  · rw [h.splitSign_pointText negative]
    simp only []
    rw [Toml.decimalDigits?_of_mem (c := '.') (by simp) (by decide) (by decide)]
    rfl

theorem numeral?_pointText (h : Pointed whole fraction) (negative : Bool) :
    Toml.numeral? (pointText negative whole fraction) =
      some (.ofParts negative whole fraction 0) := by
  have hmantissa : ∀ c ∈ whole ++ '.' :: fraction, (c != 'e' && c != 'E') = true := by
    intro c hc
    have hne : ∀ e : Char, ¬ (e = '-' ∨ e = '.' ∨ e.isDigit = true) → c ≠ e := by
      rintro e he rfl
      have hmem : c ∈ pointText false whole fraction := hc
      exact he (h.cases_of_mem hmem)
    simp [hne 'e' (by decide), hne 'E' (by decide)]
  have hparts : segments (· == '.') (whole ++ '.' :: fraction) = [whole, fraction] := by
    rw [segments_append_cons _ _ _ (by decide), h.whole_run.segments_eq (by decide),
      h.fraction_run.segments_eq (by decide)]
    rfl
  unfold Toml.numeral?
  rw [h.splitSign_pointText negative]
  simp only [List.takeWhile_eq_self_iff.2 hmantissa, List.dropWhile_eq_nil_iff.2 hmantissa, hparts,
    h.whole_run.decimalDigits?_eq h.no_zero, h.fraction_run.ungroup?_eq]
  rfl

theorem scalar?_pointText (h : Pointed whole fraction) (negative : Bool) :
    Toml.scalar? (pointText negative whole fraction) =
      some (if ((Decimal.ofParts negative whole fraction 0).toBinary : Double).isFinite then
        .float (Decimal.ofParts negative whole fraction 0).toBinary else .unrepresentable) := by
  have hname : ∀ name : String, '.' ∉ name.toList →
      pointText negative whole fraction ≠ name.toList :=
    fun name hnot heq => hnot (heq ▸ point_mem negative)
  have hbody : ∀ name : String, '.' ∉ name.toList → whole ++ '.' :: fraction ≠ name.toList :=
    fun name hnot heq => hnot (heq ▸ by simp)
  have hfloat : Toml.float? (pointText negative whole fraction) =
      some (if ((Decimal.ofParts negative whole fraction 0).toBinary : Double).isFinite then
        .float (Decimal.ofParts negative whole fraction 0).toBinary else .unrepresentable) := by
    unfold Toml.float?
    rw [h.splitSign_pointText negative]
    simp only []
    rw [if_neg (hbody "inf" (by decide)), if_neg (hbody "nan" (by decide)),
      h.numeral?_pointText negative]
    rfl
  unfold Toml.scalar?
  rw [if_neg (hname "true" (by decide)), if_neg (hname "false" (by decide)),
    h.integer?_pointText negative, hfloat]

end Pointed

/-! ## Boosts -/

/-- A boost is written in the characters of scalars. -/
theorem Single.isScalarChar_toml (x : Single) :
    x.toml.toList ≠ [] ∧ ∀ c ∈ x.toml.toList, Toml.isScalarChar c = true := by
  cases x with
  | nan => exact ⟨by decide, List.all_eq_true.1 (by decide)⟩
  | infinite negative =>
    cases negative with
    | false => exact ⟨by decide, List.all_eq_true.1 (by decide)⟩
    | true => exact ⟨by decide, List.all_eq_true.1 (by decide)⟩
  | finite negative m =>
    obtain ⟨whole, fraction, hspelled, htext⟩ := exists_spelled_toml negative m
    rw [htext]
    refine ⟨List.ne_nil_of_mem (Pointed.point_mem negative), fun c hc => ?_⟩
    rcases hspelled.cases_of_mem hc with rfl | rfl | hdigit
    · decide
    · decide
    · simp [Toml.isScalarChar, Char.isAlphanum, hdigit]

/-- What a boost is written as, a value of 64 bits. -/
def Single.stored (x : Single) : Double := (Binary.read? x.toml).getD .nan

/-- Whether a boost is what its written form is rounded to, by way of 64 bits. -/
def Single.Recovered (x : Single) : Prop :=
  (Binary.read? x.toml : Option Double).map (Binary.convert .single) = some x

instance (x : Single) : Decidable x.Recovered := inferInstanceAs (Decidable (_ = _))

/-- The boost that is read where one was written: itself, but for a single magnitude. -/
def Single.reread : Single → Single
  | .finite negative m => .finite negative (if m = .unsteady then .unsteadyNext else m)
  | x => x

/-- A numeral with few digits behind the point is rounded from its exact value. -/
theorem Spelled.exists_toBinary {d : Digits} {whole fraction : List Char}
    (h : Spelled d whole fraction) (hdigits : d.digits ≠ 0) (hexp : -149 ≤ d.exponent)
    (negative : Bool) :
    ∃ num den : ℕ, (num / den : ℚ) = d.digits * 10 ^ d.exponent ∧
      ((Decimal.ofParts negative whole fraction 0).toBinary : Double) =
        .ofFraction negative num den := by
  have hvalue := h.value
  have hplaces := h.places
  have hnum : Decimal.ofDigits (whole ++ fraction) ≠ 0 := by
    intro hzero
    rw [hzero, Nat.cast_zero, zero_div, eq_comm, mul_eq_zero] at hvalue
    rcases hvalue with hvalue | hvalue
    · exact hdigits (by exact_mod_cast hvalue)
    · exact absurd hvalue (by positivity)
  refine ⟨Decimal.ofDigits (whole ++ fraction) * tenPow 0, tenPow fraction.length, ?_, ?_⟩
  · rw [cast_tenPow, ← hvalue, tenPow, Nat.pow_eq, pow_zero, mul_one]
  · have hup : ((0 : ℤ) - fraction.length).toNat = 0 := by omega
    have hdown : (-((0 : ℤ) - fraction.length)).toNat = fraction.length := by omega
    unfold Decimal.toBinary Decimal.ofParts
    simp only []
    rw [if_neg hnum, if_neg (by show ¬ ((971 + 53 : ℤ) ≤ 0 - fraction.length); omega),
      if_neg (by show ¬ ((0 - fraction.length : ℤ) + (_ : ℕ) < -1074); omega), hup, hdown]

namespace Single

/-- A finite boost is stored as a finite value of 64 bits, which is rounded to what is read. -/
theorem stored_finite (negative : Bool) (m : Magnitude Format.single) :
    (stored (.finite negative m)).isFinite = true ∧
      (stored (.finite negative m)).convert .single = reread (.finite negative m) := by
  by_cases hzero : m.mantissa = 0
  · have hm : m = ⟨0, -149, by decide⟩ := Magnitude.eq_of_mantissa_eq_zero hzero rfl
    rw [hm]
    cases negative <;> decide +kernel
  by_cases hunsteady : m = .unsteady
  · rw [hunsteady]
    cases negative <;> decide +kernel
  · obtain ⟨whole, fraction, hspelled, htext⟩ := exists_spelled_toml negative m
    have hexp := m.shortest_exponent_ge hzero .up
    have hmin : -149 ≤ m.exponent := m.canonical.2.1
    obtain ⟨num, den, hvalue, hbinary⟩ :=
      hspelled.exists_toBinary (m.shortest_digits_ne_zero hzero .up) (by omega) negative
    obtain ⟨y, hround, hconvert⟩ := Magnitude.exists_convert hzero hunsteady hvalue negative
    have hstored : stored (.finite negative m) = .finite negative y := by
      rw [stored, hspelled.binary_read? negative htext, hbinary, hround, Option.getD_some]
    rw [hstored, hconvert, reread, if_neg hunsteady]
    exact ⟨rfl, rfl⟩

variable (x : Single)

theorem read?_toml : Binary.read? x.toml = some x.stored := by
  cases x with
  | nan => rfl
  | infinite negative => cases negative <;> rfl
  | finite negative m =>
    obtain ⟨whole, fraction, hspelled, htext⟩ := exists_spelled_toml negative m
    rw [stored, hspelled.binary_read? negative htext, Option.getD_some]

theorem convert_stored : x.stored.convert .single = x.reread := by
  cases x with
  | nan => rfl
  | infinite negative => cases negative <;> rfl
  | finite negative m => exact (stored_finite negative m).2

/-- A boost is read as a scalar. -/
theorem scalar?_toml : Toml.scalar? x.toml.toList = some (.float x.stored) := by
  cases x with
  | nan => rfl
  | infinite negative => cases negative <;> rfl
  | finite negative m =>
    obtain ⟨whole, fraction, hspelled, htext⟩ := exists_spelled_toml negative m
    have hfinite := (stored_finite negative m).1
    rw [stored, hspelled.binary_read? negative htext, Option.getD_some] at hfinite ⊢
    rw [htext, hspelled.scalar?_pointText negative, if_pos hfinite]

theorem recovered_iff : x.Recovered ↔ x.reread = x := by
  rw [Recovered, read?_toml, Option.map_some, convert_stored, Option.some_inj]

/-- All boosts but two are read as they were written. -/
theorem reread_eq_iff : x.reread = x ↔ ∀ negative, x ≠ .finite negative .unsteady := by
  cases x with
  | nan => exact ⟨fun _ _ => by simp, fun _ => rfl⟩
  | infinite negative => exact ⟨fun _ _ => by simp, fun _ => rfl⟩
  | finite negative m =>
    rw [reread]
    split
    · next h =>
      rw [h]
      exact ⟨fun heq => absurd heq (by cases negative <;> decide), fun h => absurd rfl (h negative)⟩
    · next h => exact ⟨fun _ _ heq => h (Binary.finite.inj heq).2, fun _ => rfl⟩

end Single

end HelpQuery
