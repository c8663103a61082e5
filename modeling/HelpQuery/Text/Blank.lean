import HelpQuery.Text.Ranges
import HelpQuery.Text.Segments

/-!
# Blanks

Blanks are the characters with the White_Space property.  A text's words are its maximal runs of
other characters, so a blank keeps the words on its two sides apart:

    words (a ++ c :: b) = words a ++ words b    when isBlank c
-/

namespace HelpQuery.Text

/-- The characters with the White_Space property. -/
def blankRanges : Ranges :=
  [(0x9, 0xD), (0x20, 0x20), (0x85, 0x85), (0xA0, 0xA0), (0x1680, 0x1680), (0x2000, 0x200A),
   (0x2028, 0x2029), (0x202F, 0x202F), (0x205F, 0x205F), (0x3000, 0x3000)]

def isBlank (c : Char) : Bool := blankRanges.has c.toNat

/-- The maximal runs of characters that are not blank. -/
def words (text : List Char) : List (List Char) :=
  (segments isBlank text).filter (· ≠ [])

theorem words_append_cons (a : List Char) {c : Char} (b : List Char) (h : isBlank c = true) :
    words (a ++ c :: b) = words a ++ words b := by
  simp [words, segments_append_cons isBlank a b h]

/-- The text without the blanks at its two ends. -/
def trim (text : List Char) : List Char :=
  ((text.dropWhile isBlank).reverse.dropWhile isBlank).reverse

end HelpQuery.Text
