/-!
# Patterns of terms

A wildcard pattern is handed to the engine as a regular expression of a small kind: a point is any
character but a line feed, a point with a star any run of those, a backslash makes the next
character literal, and every other character stands for itself.  Matching is anchored at both ends:

    matchAll (literal c :: items) (x :: text) = (x == c && matchAll items text)
    matchAll (anyRun :: items) (x :: text) =
      (matchAll items (x :: text) || (x != '\n' && matchAll (anyRun :: items) text))
-/

namespace HelpQuery

/-- The characters that mean something in a regular expression. -/
def regexSpecials : List Char :=
  ['\\', '.', '+', '*', '?', '(', ')', '|', '[', ']', '\x7b', '\x7d', '^', '$', '#', '&', '-', '~']

/-- The regular expression of one character of a wildcard pattern. -/
def wildcardCharRegex (c : Char) : List Char :=
  if c = '*' then ['.', '*']
  else if c = '?' then ['.']
  else if regexSpecials.contains c then ['\\', c]
  else [c]

/-- The regular expression of a wildcard pattern. -/
def wildcardRegex (pattern : String) : String :=
  String.ofList (pattern.toList.flatMap wildcardCharRegex)

/-- An element of a regular expression. -/
inductive RegexItem where
  | literal (c : Char)
  | anyChar
  | anyRun
  deriving DecidableEq, Repr

namespace RegexItem

/-- The elements of a regular expression. -/
def read : List Char → List RegexItem
  | [] => []
  | '\\' :: c :: rest => literal c :: read rest
  | '.' :: '*' :: rest => anyRun :: read rest
  | '.' :: rest => anyChar :: read rest
  | c :: rest => literal c :: read rest

/-! ## Matching

Matching works on all suffixes of a text at once, so its cost is the number of elements times that
of characters.  A table has a mark for each suffix, the text itself first and the empty one last.
-/

/-- Marks the suffixes of a character that satisfies `p` and a suffix marked before. -/
def stepBack (p : Char → Bool) : List Char → List Bool → List Bool
  | c :: text, _ :: marks => (p c && marks.headD false) :: stepBack p text marks
  | _, _ => [false]

/-- Marks the suffixes of a run of characters other than line feeds and a suffix marked before. -/
def runBack : List Char → List Bool → List Bool
  | c :: text, mark :: marks =>
    let after := runBack text marks
    (mark || (c != '\n' && after.headD false)) :: after
  | _, marks => marks

/-- Marks the suffixes of a text that the elements match. -/
def matchingSuffixes : List RegexItem → List Char → List Bool
  | [], text => text.map (fun _ => false) ++ [true]
  | literal c :: items, text => stepBack (· == c) text (matchingSuffixes items text)
  | anyChar :: items, text => stepBack (· != '\n') text (matchingSuffixes items text)
  | anyRun :: items, text => runBack text (matchingSuffixes items text)

/-- Whether the elements match a whole text. -/
def matchAll (items : List RegexItem) (text : List Char) : Bool :=
  (matchingSuffixes items text).headD false

/-- The table of a longer text has one mark more, in front. -/
theorem matchingSuffixes_cons (items : List RegexItem) (c : Char) (text : List Char) :
    matchingSuffixes items (c :: text)
      = matchAll items (c :: text) :: matchingSuffixes items text := by
  unfold matchAll
  induction items with
  | nil => rfl
  | cons item items ih =>
    cases item <;> unfold matchingSuffixes <;> rw [ih] <;> rfl

/-- The table of the empty text has its mark alone. -/
theorem matchingSuffixes_nil (items : List RegexItem) :
    matchingSuffixes items [] = [matchAll items []] := by
  unfold matchAll
  induction items with
  | nil => rfl
  | cons item items ih =>
    cases item with
    | literal => rfl
    | anyChar => rfl
    | anyRun => exact ih

@[simp] theorem matchAll_nil (text : List Char) : matchAll [] text = text.isEmpty := by
  cases text <;> simp [matchAll, matchingSuffixes]

@[simp] theorem matchAll_literal_nil (c : Char) (items : List RegexItem) :
    matchAll (literal c :: items) [] = false := rfl

@[simp] theorem matchAll_literal_cons (c : Char) (items : List RegexItem) (x : Char)
    (text : List Char) :
    matchAll (literal c :: items) (x :: text) = (x == c && matchAll items text) := by
  rw [matchAll, matchingSuffixes, matchingSuffixes_cons]
  rfl

@[simp] theorem matchAll_anyChar_nil (items : List RegexItem) :
    matchAll (anyChar :: items) [] = false := rfl

@[simp] theorem matchAll_anyChar_cons (items : List RegexItem) (x : Char) (text : List Char) :
    matchAll (anyChar :: items) (x :: text) = (x != '\n' && matchAll items text) := by
  rw [matchAll, matchingSuffixes, matchingSuffixes_cons]
  rfl

@[simp] theorem matchAll_anyRun_nil (items : List RegexItem) :
    matchAll (anyRun :: items) [] = matchAll items [] := by
  rw [matchAll, matchingSuffixes, matchingSuffixes_nil]
  rfl

@[simp] theorem matchAll_anyRun_cons (items : List RegexItem) (x : Char) (text : List Char) :
    matchAll (anyRun :: items) (x :: text)
      = (matchAll items (x :: text) || (x != '\n' && matchAll (anyRun :: items) text)) := by
  rw [matchAll, matchingSuffixes, matchingSuffixes_cons]
  rfl

end RegexItem

/-- Whether a regular expression matches a whole term. -/
def regexMatches (regex term : String) : Bool :=
  RegexItem.matchAll (RegexItem.read regex.toList) term.toList

end HelpQuery
