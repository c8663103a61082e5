/-!
# English stems

The stem of an English word, found by taking off or rewriting suffixes in fixed steps.  A suffix
counts only in a region of the word: the first region starts after the first consonant that follows
a vowel, the second region starts likewise inside the first.  Letters other than a, e, i, o, u and y
are consonants, and so is a y at the start of the word or after a vowel, written Y meanwhile.
-/

namespace HelpQuery.English

/-! ## Letters -/

def isVowel (c : Char) : Bool := ['a', 'e', 'i', 'o', 'u', 'y'].contains c

/-- Writes Y for every y that is a consonant. -/
def markConsonantY (afterVowel : Bool) : List Char → List Char
  | [] => []
  | c :: rest =>
    if c = 'y' ∧ afterVowel then 'Y' :: markConsonantY false rest
    else c :: markConsonantY (isVowel c) rest

/-- Writes y again. -/
def unmarkY (word : List Char) : List Char := word.map fun c => if c = 'Y' then 'y' else c

/-- Whether a word ends in a short syllable: a consonant, a vowel and a consonant other than w, x
and Y, or nothing but a vowel and a consonant. -/
def endsShort (word : List Char) : Bool :=
  match word.reverse with
  | c :: v :: b :: _ =>
    isVowel v && !isVowel b && !isVowel c && c ∉ ['w', 'x', 'Y']
  | [c, v] => isVowel v && !isVowel c
  | _ => false

/-! ## Regions -/

/-- The number of letters up to the first consonant that follows a vowel, that one included. -/
def lettersToRegion (word : List Char) : Nat :=
  let fromVowel := word.dropWhile (! isVowel ·)
  let rest := ((fromVowel.drop 1).dropWhile isVowel).drop 1
  word.length - rest.length

/-- Where the two regions of a word start. -/
structure Regions where
  first : Nat
  second : Nat
  deriving DecidableEq, Repr

/-- Beginnings after which the first region starts in any case. -/
def fixedBeginnings : List String := ["gener", "commun", "arsen"]

def regions (word : List Char) : Regions :=
  let first := match fixedBeginnings.find? (·.toList.isPrefixOf word) with
    | some beginning => beginning.length
    | none => lettersToRegion word
  ⟨first, first + lettersToRegion (word.drop first)⟩

/-! ## Suffix rules -/

/-- A suffix, what replaces it, and what the part before it has to satisfy. -/
structure Rule where
  suffix : String
  replacement : String
  condition : List Char → Bool

/-- A suffix that is replaced whatever stands before it. -/
def Rule.of (suffix replacement : String) : Rule := ⟨suffix, replacement, fun _ => true⟩

/-- The part of a word before a suffix. -/
def beforeSuffix? (suffix : String) (word : List Char) : Option (List Char) :=
  if suffix.toList.isSuffixOf word then some (word.take (word.length - suffix.length)) else none

/-- Applies the first rule whose suffix the word has, provided that the suffix lies in the region
from `start` on; the rules are listed longest suffix first. -/
def applyRules (rules : List Rule) (start : Nat) (word : List Char) : List Char :=
  match rules with
  | [] => word
  | rule :: rest =>
    match beforeSuffix? rule.suffix word with
    | none => applyRules rest start word
    | some stem =>
      if start ≤ stem.length ∧ rule.condition stem then stem ++ rule.replacement.toList else word

def endsIn (letters : List Char) (word : List Char) : Bool :=
  match word.getLast? with
  | some c => letters.contains c
  | none => false

/-! ## Steps -/

/-- Whole words with a stem of their own. -/
def irregular : List (String × String) :=
  [("skis", "ski"), ("skies", "sky"), ("dying", "die"), ("lying", "lie"), ("tying", "tie"),
   ("idly", "idl"), ("gently", "gentl"), ("ugly", "ugli"), ("early", "earli"), ("only", "onli"),
   ("singly", "singl"), ("sky", "sky"), ("news", "news"), ("howe", "howe"), ("atlas", "atlas"),
   ("cosmos", "cosmos"), ("bias", "bias"), ("andes", "andes")]

/-- Words left as they are once a plural ending is gone. -/
def invariable : List String :=
  ["inning", "outing", "canning", "herring", "earring", "proceed", "exceed", "succeed"]

/-- Plural endings. -/
def stripPlural (word : List Char) : List Char :=
  if (beforeSuffix? "sses" word).isSome then word.dropLast.dropLast
  else match (beforeSuffix? "ied" word).or (beforeSuffix? "ies" word) with
    | some stem => stem ++ if 2 ≤ stem.length then ['i'] else ['i', 'e']
    | none =>
      if (beforeSuffix? "us" word).isSome || (beforeSuffix? "ss" word).isSome then word
      else match beforeSuffix? "s" word with
        | some stem => if stem.dropLast.any isVowel then stem else word
        | none => word

/-- Letters that are doubled before an ending. -/
def doubled : List Char := ['b', 'd', 'f', 'g', 'm', 'n', 'p', 'r', 't']

/-- Whether a word ends in one of these letters written twice. -/
def endsDoubled (word : List Char) : Bool :=
  match word.reverse with
  | c :: d :: _ => c == d && doubled.contains c
  | _ => false

/-- Restores the stem that a past or progressive ending had changed. -/
def mendStem (r : Regions) (stem : List Char) : List Char :=
  if ["at", "bl", "iz"].any fun s => (beforeSuffix? s stem).isSome then stem ++ ['e']
  else if endsDoubled stem then stem.dropLast
  else if stem.length = r.first ∧ endsShort stem then stem ++ ['e']
  else stem

/-- The endings that `stripPast` takes off, longest first. -/
def pastEndings : List String := ["ingly", "edly", "ing", "ed"]

/-- Past and progressive endings. -/
def stripPast (r : Regions) (word : List Char) : List Char :=
  match (beforeSuffix? "eedly" word).or (beforeSuffix? "eed" word) with
  | some stem => if r.first ≤ stem.length then stem ++ ['e', 'e'] else word
  | none =>
    match pastEndings.findSome? (beforeSuffix? · word) with
    | some stem => if stem.any isVowel then mendStem r stem else word
    | none => word

/-- A final y after a consonant that is not the first letter. -/
def finalY (word : List Char) : List Char :=
  match word.reverse with
  | y :: c :: _ :: _ =>
    if (y = 'y' ∨ y = 'Y') ∧ ¬ isVowel c then word.dropLast ++ ['i'] else word
  | _ => word

/-- Double suffixes. -/
def doubleSuffixes : List Rule :=
  [.of "ational" "ate", .of "fulness" "ful", .of "iveness" "ive", .of "ization" "ize",
   .of "ousness" "ous", .of "biliti" "ble", .of "lessli" "less", .of "tional" "tion",
   .of "alism" "al", .of "aliti" "al", .of "ation" "ate", .of "entli" "ent", .of "fulli" "ful",
   .of "iviti" "ive", .of "ousli" "ous", .of "abli" "able", .of "alli" "al", .of "anci" "ance",
   .of "ator" "ate", .of "enci" "ence", .of "izer" "ize", .of "bli" "ble",
   ⟨"ogi", "og", endsIn ['l']⟩,
   ⟨"li", "", endsIn ['c', 'd', 'e', 'g', 'h', 'k', 'm', 'n', 'r', 't']⟩]

/-- Suffixes of adjectives and their kin; `ative` has to lie in the second region. -/
def adjectiveSuffixes (r : Regions) : List Rule :=
  [.of "ational" "ate", .of "tional" "tion", .of "alize" "al",
   ⟨"ative", "", fun stem => r.second ≤ stem.length⟩, .of "icate" "ic", .of "iciti" "ic",
   .of "ical" "ic", .of "ness" "", .of "ful" ""]

/-- Suffixes taken off in the second region. -/
def lastSuffixes : List Rule :=
  (["ement", "able", "ance", "ence", "ible", "ment", "ant", "ate", "ent"].map (Rule.of · ""))
  ++ [⟨"ion", "", endsIn ['s', 't']⟩]
  ++ (["ism", "iti", "ive", "ize", "ous", "al", "er", "ic"].map (Rule.of · ""))

/-- A final e, and the second of two final l. -/
def finalLetter (r : Regions) (word : List Char) : List Char :=
  match beforeSuffix? "e" word with
  | some stem =>
    if r.second ≤ stem.length ∨ (r.first ≤ stem.length ∧ ¬ endsShort stem) then stem else word
  | none =>
    match beforeSuffix? "l" word with
    | some stem => if r.second ≤ stem.length ∧ endsIn ['l'] stem then stem else word
    | none => word

/-- All suffixes of a regular word of three letters or more, each y marked. -/
def stripSuffixes (word : List Char) : List Char :=
  let r := regions word
  let singular := stripPlural word
  if invariable.any (·.toList = singular) then singular
  else
    finalLetter r <| applyRules lastSuffixes r.second <|
      applyRules (adjectiveSuffixes r) r.first <| applyRules doubleSuffixes r.first <|
        finalY <| stripPast r singular

/-- The stem of a lower case word. -/
def stem (word : String) : String :=
  match irregular.lookup word with
  | some s => s
  | none =>
    if word.length < 3 then word
    else String.ofList (unmarkY (stripSuffixes (markConsonantY true word.toList)))

end HelpQuery.English
