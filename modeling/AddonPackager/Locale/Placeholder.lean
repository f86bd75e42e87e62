import AddonPackager.Package.FileKind
import AddonPackager.Text.Search

/-! Expansion of the locale placeholder. A line of a chrome manifest that mentions the
placeholder twice becomes one line for each packaged locale.
-/

namespace AddonPackager.Locale

/-- The text that stands for a locale. -/
def placeholder : List Char :=
  ['{', '{', 'L', 'O', 'C', 'A', 'L', 'E', '}', '}']

/-! Searching for lines -/

/-- The shortest start of a text behind which something is found. The start stays inside the first
line of the text.
-/
def shortest {α : Type} (find : List Char → Option α) : List Char → Option (List Char × α)
  | [] => (find []).map (([], ·))
  | c :: rest =>
      match find (c :: rest) with
      | some found => some ([], found)
      | none =>
          if c = '\n' then none
          else (shortest find rest).map fun (start, found) => (c :: start, found)

/-- What is found stands right behind the start, by induction on the text. -/
theorem eq_of_shortest {α : Type} {find : List Char → Option α} {text start : List Char} {found : α}
    (search : shortest find text = some (start, found))
    : ∃ tail, text = start ++ tail ∧ find tail = some found := by
  induction text generalizing start with
  | nil =>
      obtain ⟨result, here, same⟩ := Option.map_eq_some_iff.mp search
      cases same
      exact ⟨[], rfl, here⟩
  | cons c rest ih =>
      rw [shortest] at search
      split at search
      · rename_i result here
        cases search
        exact ⟨c :: rest, rfl, here⟩
      · split at search
        · cases search
        · obtain ⟨⟨inner, result⟩, later, same⟩ := Option.map_eq_some_iff.mp search
          cases same
          obtain ⟨tail, split, here⟩ := ih later
          exact ⟨tail, congrArg (c :: ·) split, here⟩

/-- What stands around two placeholders of a line. -/
structure PlaceholderLine where
  before : List Char
  between : List Char
  after : List Char

/-- What follows a placeholder inside its line, and the text from the end of that line on. -/
def lineBehind? (text : List Char) : Option (List Char × List Char) :=
  (Text.stripPrefix? placeholder text).map fun behind =>
    (behind.takeWhile (· != '\n'), behind.dropWhile (· != '\n'))

/-- What follows a placeholder up to another one in its line, and what follows that. -/
def pairBehind? (text : List Char) : Option (List Char × List Char × List Char) :=
  (Text.stripPrefix? placeholder text).bind (shortest lineBehind?)

/-- The first line of a text if it mentions the placeholder twice, and the text from the end of the
line on.
-/
def placeholderLine? (text : List Char) : Option (PlaceholderLine × List Char) :=
  (shortest pairBehind? text).map fun (before, between, after, rest) =>
    (⟨before, between, after⟩, rest)

/-- The parts of a line and the placeholders between them make up the text. -/
theorem eq_of_placeholderLine? {text rest : List Char} {line : PlaceholderLine}
    (found : placeholderLine? text = some (line, rest))
    : text = line.before ++ placeholder ++ line.between ++ placeholder ++ line.after ++ rest := by
  obtain ⟨⟨before, between, after, beyond⟩, search, same⟩ := Option.map_eq_some_iff.mp found
  cases same
  obtain ⟨first, rfl, pair⟩ := eq_of_shortest search
  obtain ⟨inner, stripped, search⟩ := Option.bind_eq_some_iff.mp pair
  obtain ⟨second, rfl, last⟩ := eq_of_shortest search
  obtain ⟨behind, strippedSecond, same⟩ := Option.map_eq_some_iff.mp last
  cases same
  rw [Text.stripPrefix?_eq_some_iff] at stripped strippedSecond
  simp only [stripped, strippedSecond, List.append_assoc, List.takeWhile_append_dropWhile]

/-! Expanding lines -/

/-- The copies of a line, one for each locale. -/
def PlaceholderLine.copies (line : PlaceholderLine) (locales : List (List Char)) : List Char :=
  ['\n'].intercalate (locales.map fun locale =>
    line.before ++ locale ++ line.between ++ locale ++ line.after)

/-- Puts copies in place of the lines that mention the placeholder twice, from left to right. Lines
are searched for at their start only, and the search goes on behind the line that was found.
-/
def expandFrom (locales : List (List Char)) (atStart : Bool) (text : List Char) : List Char :=
  match found : if atStart then placeholderLine? text else none with
  | some (line, rest) =>
      have : rest.length < text.length := by
        split at found
        · rw [eq_of_placeholderLine? found]
          simp [placeholder]
          omega
        · cases found
      line.copies locales ++ expandFrom locales false rest
  | none =>
      match text with
      | [] => []
      | c :: rest => c :: expandFrom locales (c == '\n') rest
termination_by text.length

/-- The text with every line expanded. -/
def expand (locales : List String) (text : String) : String :=
  String.ofList (expandFrom (locales.map String.toList) true text.toList)

/-- What storing a file does to its bytes: the text of a chrome manifest is expanded. -/
def expandManifest (locales : List String) (path : String) (data : ByteArray) : ByteArray :=
  if FileKind.ofPath path = .chromeManifest then
    match String.fromUTF8? data with
    | some text =>
        if Text.occursIn placeholder text.toList then (expand locales text).toUTF8 else data
    | none => data
  else
    data

end AddonPackager.Locale
