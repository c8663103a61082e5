import HelpQuery.Proofs.Bounds
import HelpQuery.Proofs.Postings
import Mathlib.Algebra.Group.Action.Defs
import Mathlib.Algebra.Order.BigOperators.Group.List

/-!
# Weights of leaves

While the counts of an index fit the counters of an engine, everything that a score is computed from
stays within bounds that do not depend on the index:

    ln x              is between 0 and 2 ^ 14                  (between_ln)
    raritySum ..      is between 0 and 2 ^ 39                  (between_raritySum)
    saturation ..     is between 2 ^ -99 and 1                 (between_saturation)

So a score is its boost, or its boost between two factors that are not negative.
-/

namespace HelpQuery

open Single

/-! ## Logarithms -/

theorem artanhTerms_le {square : ℕ} (hsquare : square ≤ fixedOne) (count : ℕ) :
    ∀ {divisor power : ℕ}, power ≤ fixedOne →
      artanhTerms square count divisor power ≤ count * fixedOne := by
  induction count with
  | zero => exact fun _ => Nat.zero_le _
  | succ count ih =>
    intro divisor power hpower
    have hnext : power * square / fixedOne ≤ fixedOne :=
      Nat.div_le_of_le_mul (Nat.mul_le_mul hpower hsquare)
    have hfirst : power / divisor ≤ fixedOne := (Nat.div_le_self _ _).trans hpower
    have hrest := @ih (divisor + 2) _ hnext
    rw [artanhTerms, Nat.succ_mul]
    omega

theorem artanh_le {num den : ℕ} (h : num ≤ den) : artanh num den ≤ 64 * fixedOne := by
  have hx : num * fixedOne / den ≤ fixedOne := Nat.div_le_of_le_mul (Nat.mul_le_mul_right _ h)
  exact artanhTerms_le (Nat.div_le_of_le_mul (Nat.mul_le_mul hx hx)) 64 hx

theorem Magnitude.fixedLn_bounds {m : Magnitude Format.single} (hlow : 1 ≤ m.value)
    (hhigh : m.value ≤ 2 ^ (126 : ℤ)) : 0 ≤ m.fixedLn ∧ m.fixedLn ≤ 2 ^ 14 * fixedOne := by
  have hmantissa := mantissa_ne_zero (zero_lt_one.trans_le hlow)
  have hpos := two_zpow_pos m.exponent
  have hfloor : ((2 ^ m.mantissa.log2 : ℕ) : ℚ) ≤ m.mantissa := by
    exact_mod_cast Nat.log2_self_le hmantissa
  have hceil : (m.mantissa : ℚ) < (2 ^ (m.mantissa.log2 + 1) : ℕ) := by
    exact_mod_cast @Nat.lt_log2_self m.mantissa
  have hge : 0 ≤ m.exponent + m.mantissa.log2 := by
    have hlt : (2 : ℚ) ^ (0 : ℤ) < 2 ^ (m.exponent + (m.mantissa.log2 + 1 : ℕ)) := by
      rw [zpow_zero, add_comm, two_zpow_add, zpow_natCast]
      exact hlow.trans_lt (mul_lt_mul_of_pos_right (by exact_mod_cast hceil) hpos)
    have := two_zpow_lt_iff.1 hlt
    omega
  have hle : m.exponent + m.mantissa.log2 ≤ 126 := by
    rw [← two_zpow_le_iff, add_comm, two_zpow_add, zpow_natCast]
    exact (mul_le_mul_of_nonneg_right (by exact_mod_cast hfloor) hpos.le).trans hhigh
  have hthird : artanh 1 3 ≤ 64 * fixedOne := artanh_le (by norm_num)
  have hrest : artanh (m.mantissa - twoPow m.mantissa.log2) (m.mantissa + twoPow m.mantissa.log2) ≤
      64 * fixedOne := artanh_le (by omega)
  unfold fixedLn
  simp only []
  generalize artanh (m.mantissa - twoPow m.mantissa.log2) (m.mantissa + twoPow m.mantissa.log2) = r
    at hrest ⊢
  generalize artanh 1 3 = t at hthird ⊢
  generalize m.exponent + (m.mantissa.log2 : ℤ) = p at hge hle ⊢
  have hproduct : p * t ≤ 126 * (64 * fixedOne : ℕ) :=
    mul_le_mul hle (by exact_mod_cast hthird) (Int.natCast_nonneg t) (by norm_num)
  have hnonneg : 0 ≤ p * t := mul_nonneg hge (Int.natCast_nonneg t)
  constructor <;> omega

theorem between_ln {x : Single} (h : Between 1 (2 ^ (126 : ℤ)) x) :
    Between 0 (2 ^ (14 : ℤ)) (Binary.ln x) := by
  obtain ⟨m, rfl, hlow, hhigh⟩ := h
  obtain ⟨hnonneg, hle⟩ := Magnitude.fixedLn_bounds hlow hhigh
  have hmantissa := Magnitude.mantissa_ne_zero (zero_lt_one.trans_le hlow)
  have hone : (0 : ℚ) < fixedOne := by exact_mod_cast Nat.pos_of_ne_zero (twoPow_ne_zero 160)
  rw [Binary.ln, if_neg hmantissa, if_neg Bool.false_ne_true, decide_eq_false (not_lt.2 hnonneg)]
  refine between_ofFraction (twoPow_ne_zero 160) exact_zero
    exact_two_zpow (by positivity) ?_
  rw [div_le_iff₀ hone, Nat.cast_natAbs, abs_of_nonneg hnonneg]
  exact_mod_cast hle

/-! ## Counts -/

/-- The counts of some documents fit the counters of an engine: 64 bits for documents and 32 bits
for the terms of a field of one of them. -/
structure CountsFit (documents : List StoredDocument) : Prop where
  documents_lt : documents.length < 2 ^ 64
  terms_lt : ∀ d ∈ documents, ∀ f ∈ d.fields, f.2.toList.length < 2 ^ 32

theorem CountsFit.length_lt {documents : List StoredDocument} (fit : CountsFit documents)
    {d : StoredDocument} (hd : d ∈ documents) (field : String) : d.length field < 2 ^ 32 := by
  rw [StoredDocument.length, StoredDocument.postings]
  cases hlookup : d.fields.lookup field with
  | none => exact Nat.two_pow_pos 32
  | some postings =>
    obtain ⟨before, after, hsplit, -⟩ := List.lookup_eq_some_iff.1 hlookup
    exact fit.terms_lt d hd (field, postings) (by rw [hsplit]; simp)

theorem keptLength_le (length : ℕ) : keptLength length ≤ length := by
  unfold keptLength
  simp only []
  split
  · exact le_rfl
  · have hcut := Nat.div_mul_le_self (length - 24) (twoPow ((length - 24).log2 - 3))
    omega

theorem keptLength_pos {length : ℕ} (h : 1 ≤ length) : 1 ≤ keptLength length := by
  unfold keptLength
  simp only []
  split <;> omega

namespace Lookup

/-- The field that a lookup counts places in. -/
def countedIn (field : String) : Lookup → Prop
  | term f _ | phrase f _ => f = field
  | _ => False

/-- A lookup that holds is found at one place at least, and at no more places than its field has
terms. -/
theorem count_bounds {lookup : Lookup} {field : String} (hfield : lookup.countedIn field)
    {d : StoredDocument} (h : lookup.holds d.postings = true) :
    1 ≤ lookup.count d.postings ∧ lookup.count d.postings ≤ d.length field := by
  cases lookup with
  | term f text =>
    obtain rfl := hfield
    have hlength : (d.postings f).terms.length = d.length f := List.length_map _
    rw [count, ← hlength]
    exact ⟨List.count_pos_iff.2 (List.contains_iff_mem.1 h), List.count_le_length⟩
  | phrase f terms =>
    obtain rfl := hfield
    exact ⟨Postings.phraseCount_pos _ h, Postings.phraseCount_le _ terms⟩
  | regex f r => exact hfield.elim
  | nothing => exact hfield.elim

theorem keptLength_eq {lookup : Lookup} {field : String} (hfield : lookup.countedIn field)
    (d : StoredDocument) :
    lookup.keptLength d.postings = HelpQuery.keptLength (d.length field) := by
  cases lookup with
  | term f text =>
    obtain rfl := hfield
    rfl
  | phrase f terms =>
    obtain rfl := hfield
    rfl
  | regex f r => exact hfield.elim
  | nothing => exact hfield.elim

end Lookup

/-! ## Statistics -/

theorem between_ofNat_two_pow {n : ℕ} {k : ℤ} (hk : 0 ≤ k) (hk' : k ≤ 126) (h : (n : ℚ) ≤ 2 ^ k) :
    Between 0 (2 ^ k) (.ofNat n) :=
  between_ofNat exact_zero (exact_two_zpow (by omega) hk') (Nat.cast_nonneg n) h

section Statistics

variable {documents : List StoredDocument}

/-- A field that a document has terms in has an average length. -/
theorem between_averageLength (fit : CountsFit documents) {d : StoredDocument}
    (hd : d ∈ documents) {field : String} (hpos : 1 ≤ d.length field) :
    Between (2 ^ (-64 : ℤ)) (2 ^ (96 : ℤ)) (averageLength documents field) := by
  have hlength : 1 ≤ documents.length := List.length_pos_of_mem hd
  have hsum : documents.foldl (fun n d => n + d.length field) 0 =
      (documents.map (·.length field)).sum := by
    rw [List.sum_eq_foldl, List.foldl_map]
  have hlow : 1 ≤ (documents.map (·.length field)).sum :=
    hpos.trans (List.le_sum_of_mem (List.mem_map_of_mem hd))
  have hhigh : (documents.map (·.length field)).sum ≤ 2 ^ 64 * 2 ^ 32 := by
    refine (List.sum_le_card_nsmul _ (2 ^ 32) ?_).trans ?_
    · exact List.forall_mem_map.2 fun d hd => (fit.length_lt hd field).le
    · rw [List.length_map, smul_eq_mul]
      exact Nat.mul_le_mul_right _ fit.documents_lt.le
  rw [averageLength, hsum]
  have htotal : Between 1 (2 ^ (96 : ℤ)) (.ofNat (documents.map (·.length field)).sum) :=
    between_ofNat exact_one exact_two_zpow (by exact_mod_cast hlow) (by exact_mod_cast hhigh)
  have hcount : Between 1 (2 ^ (64 : ℤ)) (.ofNat documents.length) :=
    between_ofNat exact_one exact_two_zpow (by exact_mod_cast hlength)
      (by exact_mod_cast fit.documents_lt.le)
  exact htotal.div hcount exact_two_zpow exact_two_zpow

theorem between_one : Between 1 1 (.ofNat 1) :=
  between_ofNat exact_one exact_one (by norm_num) (by norm_num)

theorem between_half : Between (2 ^ (-1 : ℤ)) (2 ^ (-1 : ℤ)) (.ofFraction false 1 2) :=
  between_ofFraction two_ne_zero exact_two_zpow exact_two_zpow

theorem between_rarity {total found : ℕ} (htotal : total < 2 ^ 64) (hfound : found < 2 ^ 64) :
    Between 0 (2 ^ (14 : ℤ)) (rarity total found) := by
  have hhalf : ∀ n : ℕ, n < 2 ^ 64 →
      Between (2 ^ (-1 : ℤ)) (2 ^ (65 : ℤ)) (.ofNat n + .ofFraction false 1 2) := by
    intro n hn
    have hn' : Between 0 (2 ^ (64 : ℤ)) (.ofNat n) :=
      between_ofNat_two_pow (by norm_num) (by norm_num) (by exact_mod_cast hn.le)
    exact hn'.add between_half exact_two_zpow exact_two_zpow
  have hquotient := (hhalf (total - found) (by omega)).div (hhalf found hfound) exact_zero
    (exact_two_zpow (d := 66))
  exact between_ln (between_one.add hquotient exact_one exact_two_zpow)

/-- However many terms a phrase has, at some point the sum does not grow. -/
theorem between_raritySum (fit : CountsFit documents) (field : String) (terms : List String) :
    Between 0 (2 ^ (39 : ℤ)) (raritySum documents field terms) := by
  have hfold : ∀ x, Between 0 (2 ^ (39 : ℤ)) x → Between 0 (2 ^ (39 : ℤ))
      (terms.foldl (fun x text => x + rarity documents.length
        (documentCount documents field text)) x) := by
    induction terms with
    | nil => exact fun x hx => hx
    | cons text terms ih =>
      intro x hx
      have hcount : documentCount documents field text ≤ documents.length := List.countP_le_length
      exact ih _ (hx.add_absorbs (by norm_num) (by norm_num)
        (between_rarity fit.documents_lt (hcount.trans_lt fit.documents_lt)))
  exact hfold _ (between_ofNat_two_pow (by norm_num) (by norm_num) (by norm_num))

end Statistics

/-! ## Saturation -/

theorem between_saturationRate : Between 1 2 saturationRate :=
  between_ofFraction (by norm_num) exact_one (by simpa using exact_two_zpow (d := 1))

/-- The part of its greatest value that a score comes to is not zero, and it is not more than all
of it. -/
theorem between_saturation {average : Single}
    (haverage : Between (2 ^ (-64 : ℤ)) (2 ^ (96 : ℤ)) average) {length places : ℕ}
    (hlength : 1 ≤ length) (hlength' : length < 2 ^ 32) (hplaces : 1 ≤ places)
    (hplaces' : places < 2 ^ 32) :
    Between (2 ^ (-99 : ℤ)) 1 (saturation average length places) := by
  have hcount : ∀ n : ℕ, 1 ≤ n → n < 2 ^ 32 → Between 1 (2 ^ (32 : ℤ)) (.ofNat n) :=
    fun n hpos hlt => between_ofNat exact_one exact_two_zpow (by exact_mod_cast hpos)
      (by exact_mod_cast hlt.le)
  have hpart : Between (2 ^ (-1 : ℤ)) 1 (.ofFraction false 3 4) :=
    between_ofFraction four_ne_zero exact_two_zpow exact_one
  have hrest : Between (2 ^ (-2 : ℤ)) (2 ^ (-2 : ℤ)) (.ofFraction false 1 4) :=
    between_ofFraction four_ne_zero exact_two_zpow exact_two_zpow
  have hscaled : Between (2 ^ (-1 : ℤ)) (2 ^ (32 : ℤ)) (.ofFraction false 3 4 * .ofNat length) :=
    hpart.mul (hcount length hlength hlength') exact_two_zpow exact_two_zpow
  have hrelative : Between (2 ^ (-97 : ℤ)) (2 ^ (96 : ℤ))
      (.ofFraction false 3 4 * .ofNat length / average) :=
    hscaled.div haverage exact_two_zpow exact_two_zpow
  have hsum : Between (2 ^ (-2 : ℤ)) (2 ^ (97 : ℤ))
      (.ofFraction false 1 4 + .ofFraction false 3 4 * .ofNat length / average) :=
    hrest.add hrelative exact_two_zpow exact_two_zpow
  have hnorm : Between (2 ^ (-2 : ℤ)) (2 ^ (98 : ℤ)) (saturationRate *
      (.ofFraction false 1 4 + .ofFraction false 3 4 * .ofNat length / average)) :=
    between_saturationRate.mul hsum exact_two_zpow exact_two_zpow
  obtain ⟨m, hm, hlow, hhigh⟩ := hcount places hplaces hplaces'
  have hexact : Exact m.value := exact_value (hhigh.trans (by norm_num))
  have hown : Between m.value m.value (.ofNat places) := ⟨m, hm, le_rfl, le_rfl⟩
  have hpos : 0 < m.value := zero_lt_one.trans_le hlow
  have htotal : Between m.value (2 ^ (99 : ℤ)) (.ofNat places + saturationRate *
      (.ofFraction false 1 4 + .ofFraction false 3 4 * .ofNat length / average)) :=
    hown.add hnorm hexact exact_two_zpow (le_add_of_nonneg_right (by norm_num))
      ((add_le_add_left hhigh _).trans (by norm_num))
  refine hown.div htotal exact_two_zpow exact_one hpos.le hpos ?_ (div_self hpos.ne').le
  rw [zpow_neg, ← one_div]
  exact div_le_div_of_nonneg_right hlow (by norm_num)

/-! ## Scores of leaves -/

/-- A score is its boost, or the boost between a weight and a saturation. -/
def ScoredBy (boost score : Single) : Prop :=
  score = boost ∨ ∃ weight part, Between 0 (2 ^ (41 : ℤ)) weight ∧
    Between (2 ^ (-99 : ℤ)) 1 part ∧ score = weight * boost * part

section Leaves

variable {documents : List StoredDocument} (fit : CountsFit documents) {lookup : Lookup}
  {d : StoredDocument} (hd : d ∈ documents) (h : lookup.holds d.postings = true)

include fit hd h

/-- The weight of a term or a phrase that a document has. -/
theorem scoredBy_ofTerms (s : Schema) {field : String} (hfield : lookup.countedIn field)
    (terms : List String) (boost : Single) :
    ScoredBy boost (LeafWeight.ofTerms s documents field terms boost).bound ∧
      ScoredBy boost
        ((LeafWeight.ofTerms s documents field terms boost).score lookup d.postings) := by
  obtain ⟨hpos, hle⟩ := lookup.count_bounds hfield h
  have hlt := fit.length_lt hd field
  have haverage := between_averageLength fit hd (hpos.trans hle)
  have hsum : Between 1 (2 ^ (2 : ℤ)) (.ofNat 1 + saturationRate) :=
    between_one.add between_saturationRate exact_one exact_two_zpow
  have hweight : Between 0 (2 ^ (41 : ℤ))
      (raritySum documents field terms * (.ofNat 1 + saturationRate)) :=
    (between_raritySum fit field terms).mul hsum exact_zero exact_two_zpow
  constructor
  · exact Or.inr ⟨_, _, hweight, between_saturation haverage (by decide) (by decide) (by decide)
      (by decide), rfl⟩
  · have hkept := keptLength_le (d.length field)
    have hkept' := keptLength_pos (hpos.trans hle)
    have hplaces : ∀ counted : Bool, 1 ≤ (if counted then lookup.count d.postings else 1) ∧
        (if counted then lookup.count d.postings else 1) < 2 ^ 32 := by
      intro counted
      cases counted with
      | false => exact ⟨le_rfl, by norm_num⟩
      | true => exact ⟨hpos, hle.trans_lt hlt⟩
    rw [← Lookup.keptLength_eq hfield] at hkept hkept'
    exact Or.inr ⟨_, _, hweight, between_saturation haverage hkept' (hkept.trans_lt hlt)
      (hplaces _).1 (hplaces _).2, rfl⟩

theorem scoredBy_ofBoost (s : Schema) (boost : Single) :
    ScoredBy boost (LeafWeight.ofBoost s documents lookup boost).bound ∧
      ScoredBy boost
        ((LeafWeight.ofBoost s documents lookup boost).score lookup d.postings) := by
  cases lookup with
  | term field text => exact scoredBy_ofTerms fit hd h s rfl [text] boost
  | phrase field terms => exact scoredBy_ofTerms fit hd h s rfl terms boost
  | regex field r => exact ⟨Or.inl rfl, Or.inl rfl⟩
  | nothing => exact ⟨Or.inl rfl, Or.inl rfl⟩

end Leaves

/-- A boost that is not negative gives scores that are not, even where they are infinite. -/
theorem ScoredBy.atLeast_zero {boost score : Single} (h : ScoredBy boost score)
    (hfinite : boost.isFinite = true) (hboost : AtLeast 0 boost) : AtLeast 0 score := by
  rcases h with rfl | ⟨weight, part, hweight, hpart, rfl⟩
  · exact hboost
  · refine AtLeast.mul_between ?_ (by norm_num) hpart
    obtain ⟨m, rfl, hm, -⟩ := hweight
    cases boost with
    | nan => cases hfinite
    | infinite negative => cases hfinite
    | finite negative n => exact atLeast_mul_finite hm hboost

/-- A boost within bounds gives scores within bounds. -/
theorem ScoredBy.within {boost score : Single} (h : ScoredBy boost score)
    (hboost : Within (2 ^ (60 : ℤ)) boost) : Within (2 ^ (102 : ℤ)) score := by
  rcases h with rfl | ⟨weight, part, hweight, hpart, rfl⟩
  · obtain ⟨negative, m, rfl, hm⟩ := hboost
    exact ⟨negative, m, rfl, hm.trans (by norm_num)⟩
  · have hproduct : Within (2 ^ (102 : ℤ)) (weight * boost) :=
      hweight.within.mul hboost exact_two_zpow (by norm_num)
    exact hproduct.mul hpart.within exact_two_zpow (by norm_num)

end HelpQuery
