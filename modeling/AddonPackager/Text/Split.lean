/-! Cutting texts at characters and at line ends, and joining pieces.
-/

namespace AddonPackager.Text

/-- What stands before and after the first `separator`. -/
def splitOnce (separator : Char) : List Char → Option (List Char × List Char)
  | [] => none
  | c :: rest =>
      if c = separator then
        some ([], rest)
      else
        (splitOnce separator rest).map fun (before, after) => (c :: before, after)

/-- Splitting takes one separator out of the text and nothing else, by induction on the text. -/
theorem eq_of_splitOnce {separator : Char} {text before after : List Char}
    (found : splitOnce separator text = some (before, after))
    : text = before ++ separator :: after := by
  induction text generalizing before with
  | nil => simp [splitOnce] at found
  | cons c rest ih =>
      rw [splitOnce] at found
      split at found
      · simp_all
      · obtain ⟨⟨before', after'⟩, inner, same⟩ := Option.map_eq_some_iff.mp found
        simp only [Prod.mk.injEq] at same
        obtain ⟨rfl, rfl⟩ := same
        simp [ih inner]

/-- A line without the carriage return before its line feed. -/
def dropReturn (line : List Char) : List Char :=
  if line.getLast? = some '\r' then line.dropLast else line

/-- The lines among the pieces between line feeds: every piece but the last was ended by a line
feed, and an empty last piece is no line.
-/
def linesOfPieces : List (List Char) → List (List Char)
  | [] => []
  | [last] => if last.isEmpty then [] else [last]
  | line :: rest => dropReturn line :: linesOfPieces rest

/-- The lines of a text; a line feed, or a carriage return and a line feed, ends a line. -/
def lines (text : List Char) : List (List Char) :=
  linesOfPieces (text.splitOn '\n')

/-- The pieces between the separators, as strings. -/
def pieces (separator : Char) (text : String) : List String :=
  (text.toList.splitOn separator).map String.ofList

/-- The strings with `separator` between neighbours. -/
def join (separator : String) (texts : List String) : String :=
  String.ofList (separator.toList.intercalate (texts.map String.toList))

end AddonPackager.Text
