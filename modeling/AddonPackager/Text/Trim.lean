import AddonPackager.Unicode.Class

/-! Trimming texts and splitting them into words. Blank means the property White_Space.
-/

namespace AddonPackager.Text

open Unicode

/-- The text from its first character that is not blank. -/
def trimStart (text : List Char) : List Char :=
  text.dropWhile isBlank

/-- The text up to its last character that is not blank. -/
def trimEnd (text : List Char) : List Char :=
  (text.reverse.dropWhile isBlank).reverse

/-- The text without blanks at either end. -/
def trim (text : List Char) : List Char :=
  trimEnd (trimStart text)

/-- The maximal runs of characters that are not blank. -/
def words (text : List Char) : List (List Char) :=
  (text.splitOnP isBlank).filter (!·.isEmpty)

/-- `trim` on strings. -/
def trimmed (text : String) : String :=
  String.ofList (trim text.toList)

/-- `words` on strings. -/
def wordsOf (text : String) : List String :=
  (words text.toList).map String.ofList

end AddonPackager.Text
