import HelpQuery.Proofs.Analysis
import HelpQuery.Proofs.Engine
import HelpQuery.Query.Report

/-!
# Capitals in index terms

Putting a text in lower case leaves no upper case letters but those without a lower case form, such
as the mathematical bold capitals.  A wildcard has to find each of its letters in a term that matches
it, so where stems add no capitals, one with any other capital never matches:

    lowerChar c ≠ [c] for a capital c of the pattern → no term of a text matches the pattern

The letters without a lower case form are words themselves, and wildcards can match them.
-/

namespace HelpQuery

/-! ## Lower case -/

namespace Text

/-- Numbers as the bits of a single one. -/
def bitsOf (ns : List Nat) : Nat := ns.foldr (fun n bits => bits ||| 1 <<< n) 0

theorem testBit_bitsOf {ns : List Nat} {n : Nat} (h : n ∈ ns) : (bitsOf ns).testBit n = true := by
  induction ns with
  | nil => cases h
  | cons m ns ih =>
    rw [bitsOf, List.foldr_cons, Nat.testBit_or, Bool.or_eq_true]
    rcases List.mem_cons.1 h with rfl | h
    · right
      simp
    · exact Or.inl (ih h)

/-- Lists whose numbers have no bit in common have no element in common. -/
theorem not_mem_of_bitsOf {a b : List Nat} (h : bitsOf a &&& bitsOf b = 0) {n : Nat}
    (ha : n ∈ a) : n ∉ b := by
  intro hb
  have hbit := Nat.testBit_and (bitsOf a) (bitsOf b) n
  rw [h, testBit_bitsOf ha, testBit_bitsOf hb, Nat.zero_testBit] at hbit
  cases hbit

/-- The code points of ranges. -/
def Ranges.points (ranges : Ranges) : List Nat :=
  ranges.flatMap fun r => List.range' r.1 (r.2 + 1 - r.1)

theorem Ranges.mem_points {ranges : Ranges} {n : Nat} (h : ranges.has n = true) :
    n ∈ ranges.points := by
  obtain ⟨r, hr, hlow, hhigh⟩ := Ranges.exists_of_has h
  exact List.mem_flatMap.2 ⟨r, hr, by rw [List.mem_range'_1]; omega⟩

namespace CaseRun

/-- The code points that a run maps to. -/
def images (run : CaseRun) : List Nat :=
  ((List.range (run.high + 1 - run.low)).filter (· % run.step = 0)).map (run.target + ·)

theorem mem_images_of_image? {n k : Nat} {runs : List CaseRun} (h : image? n runs = some k) :
    k ∈ runs.flatMap images := by
  induction runs with
  | nil => cases h
  | cons run runs ih =>
    rw [List.flatMap_cons, List.mem_append]
    rw [image?] at h
    split at h
    · cases h
    · next hlow =>
      split at h
      · next hrun =>
        obtain ⟨hhigh, hstep⟩ := hrun
        refine Or.inl (List.mem_map.2 ⟨n - run.low, List.mem_filter.2 ⟨?_, ?_⟩, Option.some.inj h⟩)
        · rw [List.mem_range]
          omega
        · exact decide_eq_true hstep
      · exact Or.inr (ih h)

end CaseRun

/-- No lower case form is a capital. -/
theorem not_isUppercase_of_image? {n k : Nat} (h : CaseRun.image? n lowercaseRuns = some k) :
    isUppercase (Char.ofNat k) = false := by
  have hbits : bitsOf (lowercaseRuns.flatMap CaseRun.images) &&& bitsOf uppercaseRanges.points
      = 0 := by decide +kernel
  have hnot : k ∉ uppercaseRanges.points := not_mem_of_bitsOf hbits (CaseRun.mem_images_of_image? h)
  rw [isUppercase, Char.ofNat]
  by_cases hvalid : k.isValidChar
  · rw [dif_pos hvalid]
    exact Bool.eq_false_iff.2 fun hk => hnot (Ranges.mem_points hk)
  · rw [dif_neg hvalid]
    decide

/-- Without capitals. -/
def isSmall (word : List Char) : Bool := word.all (! isUppercase ·)

theorem not_isUppercase_of_mem {word : List Char} (h : isSmall word = true) {c : Char}
    (hc : c ∈ word) : isUppercase c = false := by
  simpa using List.all_eq_true.1 h c hc

/-- A capital that a letter leaves in lower case is that letter, which has no lower case form. -/
theorem lowerChar_of_capital {c d : Char} (hd : d ∈ lowerChar c) (hcapital : isUppercase d = true) :
    lowerChar d = [d] := by
  unfold lowerChar at hd
  split at hd
  · -- the dotted capital i becomes two small characters
    exact absurd hcapital (by rw [not_isUppercase_of_mem (by decide) hd]; decide)
  · next hdotted =>
    split at hd
    · next n hn =>
      obtain rfl := List.mem_singleton.1 hd
      rw [not_isUppercase_of_image? hn] at hcapital
      cases hcapital
    · next hn =>
      obtain rfl := List.mem_singleton.1 hd
      rw [lowerChar, if_neg hdotted, hn]

/-- The capitals of a text in lower case have no lower case form. -/
theorem lowerChar_of_mem_lower {text : List Char} {c : Char} (hc : c ∈ lower text)
    (hcapital : isUppercase c = true) : lowerChar c = [c] := by
  obtain ⟨d, -, hd⟩ := List.mem_flatMap.1 hc
  exact lowerChar_of_capital hd hcapital

end Text

/-! ## Stems -/

/-- A word has no capitals but those of the word that it is made from. -/
def AddsNoCapital (word made : List Char) : Prop :=
  ∀ c ∈ made, Text.isUppercase c = true → c ∈ word

namespace AddsNoCapital

variable {a b c : List Char}

theorem trans (hab : AddsNoCapital a b) (hbc : AddsNoCapital b c) : AddsNoCapital a c :=
  fun d hd hcapital => hab d (hbc d hd hcapital) hcapital

theorem of_subset (h : b ⊆ a) : AddsNoCapital a b := fun _ hc _ => h hc

theorem refl (a : List Char) : AddsNoCapital a a := of_subset (List.Subset.refl a)

/-- Small letters may be written behind what is taken over. -/
theorem append_small (h : b ⊆ a) (hc : Text.isSmall c = true) : AddsNoCapital a (b ++ c) := by
  intro d hd hcapital
  rcases List.mem_append.1 hd with hd | hd
  · exact h hd
  · rw [Text.not_isUppercase_of_mem hc hd] at hcapital
    cases hcapital

end AddsNoCapital

namespace English

theorem subset_of_beforeSuffix? {suffix : String} {word stem : List Char}
    (h : beforeSuffix? suffix word = some stem) : stem ⊆ word := by
  unfold beforeSuffix? at h
  split at h
  · obtain rfl := Option.some.inj h
    exact List.take_subset _ word
  · cases h

theorem subset_of_beforeSuffix?_or {long short : String} {word stem : List Char}
    (h : (beforeSuffix? long word).or (beforeSuffix? short word) = some stem) : stem ⊆ word := by
  rcases Option.or_eq_some_iff.1 h with h | ⟨-, h⟩
  · exact subset_of_beforeSuffix? h
  · exact subset_of_beforeSuffix? h

theorem dropLast_subset (word : List Char) : word.dropLast ⊆ word :=
  (List.dropLast_sublist word).subset

theorem addsNoCapital_stripPlural (word : List Char) : AddsNoCapital word (stripPlural word) := by
  unfold stripPlural
  split
  · exact .of_subset fun c hc => dropLast_subset word (dropLast_subset _ hc)
  · split
    · next stem hstem =>
      refine .append_small (subset_of_beforeSuffix?_or hstem) ?_
      split <;> decide
    · split
      · exact .refl word
      · split
        · next stem hstem =>
          split
          · exact .of_subset (subset_of_beforeSuffix? hstem)
          · exact .refl word
        · exact .refl word

theorem addsNoCapital_mendStem (r : Regions) (stem : List Char) :
    AddsNoCapital stem (mendStem r stem) := by
  have he : AddsNoCapital stem (stem ++ ['e']) :=
    .append_small (List.Subset.refl stem) (by decide)
  unfold mendStem
  split
  · exact he
  · split
    · exact .of_subset (dropLast_subset stem)
    · split
      · exact he
      · exact .refl stem

theorem addsNoCapital_stripPast (r : Regions) (word : List Char) :
    AddsNoCapital word (stripPast r word) := by
  unfold stripPast
  split
  · next stem hstem =>
    split
    · exact .append_small (subset_of_beforeSuffix?_or hstem) (by decide)
    · exact .refl word
  · split
    · next stem hstem =>
      obtain ⟨ending, -, hstem⟩ := List.exists_of_findSome?_eq_some hstem
      split
      · exact .trans (.of_subset (subset_of_beforeSuffix? hstem)) (addsNoCapital_mendStem r stem)
      · exact .refl word
    · exact .refl word

theorem addsNoCapital_finalY (word : List Char) : AddsNoCapital word (finalY word) := by
  unfold finalY
  split
  · split
    · exact .append_small (dropLast_subset word) (by decide)
    · exact .refl word
  · exact .refl word

theorem addsNoCapital_applyRules {rules : List Rule}
    (h : ∀ rule ∈ rules, Text.isSmall rule.replacement.toList = true)
    (start : Nat) (word : List Char) : AddsNoCapital word (applyRules rules start word) := by
  induction rules with
  | nil => exact .refl word
  | cons rule rules ih =>
    obtain ⟨hrule, hrules⟩ := List.forall_mem_cons.1 h
    rw [applyRules]
    split
    · exact ih hrules
    · next stem hstem =>
      split
      · exact .append_small (subset_of_beforeSuffix? hstem) hrule
      · exact .refl word

theorem addsNoCapital_finalLetter (r : Regions) (word : List Char) :
    AddsNoCapital word (finalLetter r word) := by
  unfold finalLetter
  split
  · next stem hstem =>
    split
    · exact .of_subset (subset_of_beforeSuffix? hstem)
    · exact .refl word
  · split
    · next stem hstem =>
      split
      · exact .of_subset (subset_of_beforeSuffix? hstem)
      · exact .refl word
    · exact .refl word

theorem addsNoCapital_stripSuffixes (word : List Char) :
    AddsNoCapital word (stripSuffixes word) := by
  have hplural := addsNoCapital_stripPlural word
  have hlast : ∀ rule ∈ lastSuffixes, Text.isSmall rule.replacement.toList = true := by decide
  have hadjective : ∀ rule ∈ adjectiveSuffixes (regions word),
      Text.isSmall rule.replacement.toList = true := by
    simp only [adjectiveSuffixes, Rule.of, List.forall_mem_cons]
    decide
  have hdouble : ∀ rule ∈ doubleSuffixes, Text.isSmall rule.replacement.toList = true := by decide
  unfold stripSuffixes
  simp only []
  split
  · exact hplural
  · exact hplural.trans <| (addsNoCapital_stripPast _ _).trans <| (addsNoCapital_finalY _).trans <|
      (addsNoCapital_applyRules hdouble _ _).trans <|
      (addsNoCapital_applyRules hadjective _ _).trans <|
      (addsNoCapital_applyRules hlast _ _).trans (addsNoCapital_finalLetter _ _)

/-- Only a marked y is a capital of its own, and it becomes small again. -/
theorem mem_of_mem_markConsonantY {c : Char} (hc : c ≠ 'Y') :
    ∀ {afterVowel : Bool} {word : List Char}, c ∈ markConsonantY afterVowel word → c ∈ word := by
  intro afterVowel word h
  induction word generalizing afterVowel with
  | nil => cases h
  | cons d word ih =>
    rw [markConsonantY] at h
    split at h
    · rcases List.mem_cons.1 h with h | h
      · exact absurd h hc
      · exact List.mem_cons_of_mem d (ih h)
    · rcases List.mem_cons.1 h with rfl | h
      · exact List.mem_cons_self
      · exact List.mem_cons_of_mem d (ih h)

theorem addsNoCapital_stem (word : String) : AddsNoCapital word.toList (stem word).toList := by
  unfold stem
  split
  · next s hs =>
    have hsmall : ∀ entry ∈ irregular, Text.isSmall entry.2.toList = true := by decide
    obtain ⟨before, after, heq, -⟩ := List.lookup_eq_some_iff.1 hs
    intro c hc hcapital
    have hmem : (word, s) ∈ irregular := by simp [heq]
    rw [Text.not_isUppercase_of_mem (hsmall (word, s) hmem) hc] at hcapital
    cases hcapital
  · split
    · exact .refl _
    · intro c hc hcapital
      rw [String.toList_ofList, unmarkY] at hc
      obtain ⟨d, hd, rfl⟩ := List.mem_map.1 hc
      by_cases hY : d = 'Y'
      · rw [if_pos hY] at hcapital
        exact absurd hcapital (by decide)
      · rw [if_neg hY] at hcapital ⊢
        exact mem_of_mem_markConsonantY hY (addsNoCapital_stripSuffixes _ d hd hcapital)

end English

/-- A stemmer adds no capitals to words in lower case. -/
def KeepsCase (stem : String → String) : Prop :=
  ∀ text, AddsNoCapital (Text.lower text) (stem (String.ofList (Text.lower text))).toList

theorem English.keepsCase_stem : KeepsCase English.stem := by
  intro text
  have hstem := addsNoCapital_stem (String.ofList (Text.lower text))
  rwa [String.toList_ofList] at hstem

/-- A word of one letter is its own stem. -/
theorem English.stem_singleton (c : Char) :
    English.stem (String.singleton c) = String.singleton c := by
  have hirregular : irregular.lookup (String.singleton c) = none := by
    refine List.lookup_eq_none_iff.2 fun entry hentry => bne_iff_ne.2 ?_
    have hlong : ∀ entry ∈ irregular, entry.1.length ≠ 1 := by decide
    rintro heq
    exact hlong entry hentry (by rw [← heq, String.length_singleton])
  simp [stem, hirregular]

/-! ## Terms -/

namespace Pipeline

variable {p : Pipeline}

/-- The capitals of a term have no lower case form. -/
theorem lowerChar_of_mem_term (h : KeepsCase p.stem) {text term : String}
    (hterm : term ∈ p.terms text) {c : Char} (hc : c ∈ term.toList)
    (hcapital : Text.isUppercase c = true) : Text.lowerChar c = [c] := by
  rw [p.terms_eq] at hterm
  obtain ⟨chars, -, hterm⟩ := List.mem_filterMap.1 hterm
  unfold term? at hterm
  simp only [] at hterm
  split at hterm
  · cases hterm
  · split at hterm
    · cases hterm
    · obtain rfl := Option.some.inj hterm
      exact Text.lowerChar_of_mem_lower (h chars c hc hcapital) hcapital

/-- A letter that is its own lower case form, and no stop word, has its stem for a term. -/
theorem terms_singleton {c : Char} (halphanumeric : Text.isAlphanumeric c = true)
    (hlower : Text.lowerChar c = [c]) (hkept : p.isStopWord (String.singleton c) = false) :
    p.terms (String.singleton c) = [p.stem (String.singleton c)] := by
  have hword : Text.lower [c] = [c] := by simp [Text.lower, hlower]
  have hlength : byteLength [c] = c.utf8Size := by simp [byteLength]
  have hshort : ¬ longWord ≤ byteLength [c] := by
    have := c.utf8Size_le_four
    rw [hlength, longWord]
    omega
  have hruns : runsFrom 0 [c] = [⟨0, [c]⟩] := by simp [runsFrom, halphanumeric, extendRuns]
  have hterm : p.term? [c] = some (p.stem (String.singleton c)) := by
    rw [term?]
    simp only [hword, ← String.singleton_eq_ofList]
    rw [if_neg hshort, if_neg (Bool.eq_false_iff.1 hkept)]
  rw [terms_eq, String.toList_singleton, charTerms, hruns]
  simp [hterm]

end Pipeline

/-! ## Wildcards -/

/-- A text has every character of a pattern that fits it, wildcards apart. -/
theorem Fits.mem {p t : List Char} (h : Fits p t) {c : Char} (hc : c ∈ p) (hone : c ≠ '?')
    (hstar : c ≠ '*') : c ∈ t := by
  induction h with
  | nil => cases hc
  | one _ _ ih =>
    rcases List.mem_cons.1 hc with hc | hc
    · exact absurd hc hone
    · exact List.mem_cons_of_mem _ (ih hc)
  | done _ ih =>
    rcases List.mem_cons.1 hc with hc | hc
    · exact absurd hc hstar
    · exact ih hc
  | more _ _ ih => exact List.mem_cons_of_mem _ (ih hc)
  | self _ _ _ ih =>
    rcases List.mem_cons.1 hc with rfl | hc
    · exact List.mem_cons_self
    · exact List.mem_cons_of_mem _ (ih hc)

theorem mem_uppercaseWildcards_iff (parts : List Part) (pattern : String) :
    pattern ∈ uppercaseWildcards parts ↔
      .atom (.wildcard pattern) ∈ parts ∧ ∃ c ∈ pattern.toList, Text.isUppercase c = true := by
  rw [uppercaseWildcards, List.mem_filterMap]
  constructor
  · rintro ⟨part, hpart, h⟩
    split at h
    · split at h
      · next hany =>
        obtain rfl := Option.some.inj h
        exact ⟨hpart, List.any_eq_true.1 hany⟩
      · cases h
    · cases h
  · rintro ⟨hpart, hcapital⟩
    exact ⟨_, hpart, if_pos (List.any_eq_true.2 hcapital)⟩

/-- A wildcard with a capital that has a lower case form never matches a term of a text, whatever
the stemmer of the language is, as long as its stems add no capitals.  A capital without a lower case
form is a term, unless it is a stop word or has another stem, and a wildcard with it matches. -/
theorem uppercaseWildcards_matchless (parts : List Part) (language : Language)
    (stemmers : Stemmers) (stopWords : Bool) (hcase : KeepsCase (stemmers.stem language)) :
    (∀ pattern ∈ uppercaseWildcards parts,
      (∃ c ∈ pattern.toList, Text.isUppercase c = true ∧ Text.lowerChar c ≠ [c]) →
        ∀ text, ∀ term ∈ (language.pipeline stemmers stopWords).terms text,
          regexMatches (wildcardRegex pattern) term = false) ∧
    ∀ c, Text.isUppercase c = true → Text.isAlphanumeric c = true → Text.lowerChar c = [c] →
      String.ofList [c, '*'] ∈ uppercaseWildcards [.atom (.wildcard (String.ofList [c, '*']))] ∧
      ((language.pipeline stemmers stopWords).isStopWord (String.singleton c) = false →
        (language.pipeline stemmers stopWords).terms (String.singleton c) =
          [stemmers.stem language (String.singleton c)]) ∧
      (stemmers.stem language (String.singleton c) = String.singleton c →
        regexMatches (wildcardRegex (String.ofList [c, '*']))
          (stemmers.stem language (String.singleton c)) = true) := by
  have hne : ∀ {c d : Char}, Text.isUppercase c = true → Text.isUppercase d = false → c ≠ d := by
    rintro c d hc hd rfl
    rw [hd] at hc
    cases hc
  have hliteral : ∀ {c : Char}, Text.isUppercase c = true → c ≠ '?' ∧ c ≠ '*' :=
    fun hc => ⟨hne hc (by decide), hne hc (by decide)⟩
  constructor
  · rintro pattern - ⟨c, hc, hcapital, hlower⟩ text term hterm
    refine Bool.eq_false_iff.2 fun hmatches => hlower ?_
    obtain ⟨hone, hstar⟩ := hliteral hcapital
    have hfits := (regexMatches_wildcardRegex pattern term).1 hmatches
    exact Pipeline.lowerChar_of_mem_term hcase hterm (hfits.mem hc hone hstar) hcapital
  · intro c hcapital halphanumeric hlower
    obtain ⟨hone, hstar⟩ := hliteral hcapital
    refine ⟨?_, ?_, fun hstem => ?_⟩
    · exact (mem_uppercaseWildcards_iff _ _).2 ⟨List.mem_cons_self, c, by simp, hcapital⟩
    · exact Pipeline.terms_singleton halphanumeric hlower
    · rw [hstem, regexMatches_wildcardRegex, String.toList_ofList, String.toList_singleton]
      exact .self hone hstar (.done .nil)

/-- A pattern that would match but for its first letter, and one that matches a bold capital. -/
theorem uppercaseWildcards_matchless_edit :
    KeepsCase (Stemmers.builtIn.stem .english) ∧
      "Edit*" ∈ uppercaseWildcards [.atom (.wildcard "Edit*")] ∧
      (∃ c ∈ "Edit*".toList, Text.isUppercase c = true ∧ Text.lowerChar c ≠ [c]) ∧
      "editor" ∈ (Language.english.pipeline .builtIn false).terms "Editors" ∧
      regexMatches (wildcardRegex "Edit*") "editor" = false ∧
      "𝐀*" ∈ uppercaseWildcards [.atom (.wildcard "𝐀*")] ∧
      (Language.english.pipeline .builtIn false).terms "𝐀" = ["𝐀"] ∧
      regexMatches (wildcardRegex "𝐀*") "𝐀" = true := by
  have hcase : KeepsCase (Stemmers.builtIn.stem .english) := English.keepsCase_stem
  have hpattern : "Edit*" ∈ uppercaseWildcards [.atom (.wildcard "Edit*")] := by decide +kernel
  have hcapital : ∃ c ∈ "Edit*".toList, Text.isUppercase c = true ∧ Text.lowerChar c ≠ [c] :=
    ⟨'E', by decide, by decide, by decide⟩
  have hterm : "editor" ∈ (Language.english.pipeline .builtIn false).terms "Editors" := by
    decide +kernel
  have hstem : Stemmers.builtIn.stem .english "𝐀" = "𝐀" := English.stem_singleton '𝐀'
  obtain ⟨hnever, hcapitals⟩ :=
    uppercaseWildcards_matchless [.atom (.wildcard "Edit*")] .english .builtIn false hcase
  obtain ⟨hwarned, hterms, hmatches⟩ := hcapitals '𝐀' (by decide +kernel) (by decide +kernel)
    (by decide +kernel)
  have hletter : String.singleton '𝐀' = "𝐀" := by decide
  rw [hletter, hstem] at hterms hmatches
  exact ⟨hcase, hpattern, hcapital, hterm, hnever _ hpattern hcapital _ _ hterm, hwarned,
    hterms (by decide), hmatches rfl⟩

/-- The bold capital A has no lower case form, so it is a term, and a wildcard with it matches. -/
theorem not_uppercaseWildcards_matchless_bold :
    ¬ ∀ (parts : List Part), ∀ pattern ∈ uppercaseWildcards parts,
      ∀ (language : Language) (stemmers : Stemmers) (stopWords : Bool) (text : String),
        KeepsCase (stemmers.stem language) →
          ∀ term ∈ (language.pipeline stemmers stopWords).terms text,
            regexMatches (wildcardRegex pattern) term = false := by
  intro h
  have hmatches := h [.atom (.wildcard "𝐀*")] "𝐀*" (by decide +kernel) .english .builtIn true "𝐀"
    English.keepsCase_stem "𝐀" (by decide +kernel)
  revert hmatches
  decide +kernel

end HelpQuery
