import AddonPackager.Text.Trim

/-! Option files: sections of options. A section starts with a bracketed name, an option is a key
and a value with `=` or `:` between them, and `#` or `;` at the start of a line opens a comment.
Quotes stand for themselves, and so does a backslash before anything but a line feed. A file that
breaks these rules is refused as a whole; where it breaks them is left out.
-/

namespace AddonPackager

/-- A section with its options in order. -/
structure OptionSection where
  name : String
  options : List (String × String)
  deriving DecidableEq, Repr

/-- The sections of a file in order. A name may occur more than once. -/
structure OptionFile where
  sections : List OptionSection
  deriving DecidableEq, Repr

namespace OptionFile

open Text Unicode

/-! Scanning -/

/-- Reads up to a stopping character. A backslash keeps the next character from stopping, and a
backslash before a line feed joins the lines.
-/
def readUntil (stop : Char → Bool) : List Char → List Char × List Char
  | [] => ([], [])
  | c :: rest =>
      if stop c then
        ([], c :: rest)
      else if c = '\\' then
        match rest with
        | [] => (['\\'], [])
        | d :: rest =>
            let read := readUntil stop rest
            (if d = '\n' then read.1 else '\\' :: d :: read.1, read.2)
      else
        let read := readUntil stop rest
        (c :: read.1, read.2)

/-- What is left is the end of the text. -/
theorem suffix_readUntil (stop : Char → Bool) (text : List Char)
    : (readUntil stop text).2 <:+ text := by
  fun_induction readUntil stop text with
  | case1 => exact List.suffix_refl _
  | case2 => exact List.suffix_refl _
  | case3 => exact List.nil_suffix
  | case4 _ d _ _ ih =>
      exact ih.trans ((List.suffix_cons _ _).trans (List.suffix_cons _ _))
  | case5 _ _ _ _ _ ih => exact ih.trans (List.suffix_cons _ _)

/-- A place in a file: what follows, and whether a line starts here. -/
structure Place where
  lineStart : Bool
  rest : List Char

/-- The blanks that may indent a line. -/
def isIndent (c : Char) : Bool :=
  c == ' ' || c == '\t'

def skipBlanks (lineStart : Bool) : List Char → Place
  | [] => ⟨lineStart, []⟩
  | c :: rest => if isBlank c then skipBlanks (c == '\n') rest else ⟨lineStart, c :: rest⟩

/-- Skips blanks, but stops at a line that is indented. -/
def skipToContent (lineStart : Bool) : List Char → Place
  | [] => ⟨lineStart, []⟩
  | c :: rest =>
      if isBlank c then
        if (c == '\n' || c == '\r') && rest.head?.any isIndent then
          ⟨c == '\n', rest⟩
        else
          skipToContent (c == '\n') rest
      else
        ⟨lineStart, c :: rest⟩

/-- Skipping to the content leaves the end of the text. -/
theorem suffix_skipToContent (lineStart : Bool) (text : List Char)
    : (skipToContent lineStart text).rest <:+ text := by
  fun_induction skipToContent lineStart text with
  | case1 => exact List.suffix_refl _
  | case2 lineStart c rest => exact List.suffix_cons c rest
  | case3 lineStart c rest _ _ ih => exact ih.trans (List.suffix_cons c rest)
  | case4 => exact List.suffix_refl _

/-! Statements -/

/-- What a file is made of. -/
inductive Statement where
  | heading (name : List Char)
  | option (key value : List Char)

/-- The characters between a key and its value. -/
def isSeparator (c : Char) : Bool :=
  c == '=' || c == ':'

def isLineEnd (c : Char) : Bool :=
  c == '\n' || c == '\r'

/-- The value behind a separator, and what follows it. -/
def readValue (text : List Char) : List Char × List Char :=
  let (value, rest) := readUntil isLineEnd (text.dropWhile fun c => isBlank c && !isLineEnd c)
  (trim value, rest)

/-- The text behind the line feed that ends a comment. -/
def skipComment (text : List Char) : List Char :=
  (text.dropWhile (· != '\n')).drop 1

/-- What follows a value is the end of the text. -/
theorem suffix_readValue (text : List Char) : (readValue text).2 <:+ text :=
  (suffix_readUntil _ _).trans (List.dropWhile_suffix _)

/-- What follows a comment and blanks is shorter than what the comment starts. -/
theorem length_lt_of_comment (c : Char) (rest : List Char)
    : (skipToContent true (skipComment rest)).rest.length < (c :: rest).length := by
  have blanks := (suffix_skipToContent true (skipComment rest)).length_le
  have line := ((List.drop_suffix 1 _).trans
    (List.dropWhile_suffix (· != '\n') (l := rest))).length_le
  simp only [skipComment, List.length_cons] at blanks line ⊢
  omega

/-- What follows a heading and blanks is shorter than what the heading starts. -/
theorem length_lt_of_heading (c : Char) {bracket : Char} {rest name after : List Char}
    (read : readUntil (· == ']') rest = (name, bracket :: after))
    : (skipToContent false after).rest.length < (c :: rest).length := by
  have blanks := (suffix_skipToContent false after).length_le
  have heading := (suffix_readUntil (· == ']') rest).length_le
  rw [read] at heading
  simp only [List.length_cons] at heading ⊢
  omega

/-- What follows an option and blanks is shorter than what the option starts. -/
theorem length_lt_of_option {separator : Char} {text key after : List Char}
    (read : readUntil isSeparator (text.dropWhile isIndent) = (key, separator :: after))
    : (skipToContent false (readValue after).2).rest.length < text.length := by
  have blanks := (suffix_skipToContent false (readValue after).2).length_le
  have value := (suffix_readValue after).length_le
  have found := (suffix_readUntil isSeparator (text.dropWhile isIndent)).length_le
  have indent := (List.dropWhile_suffix isIndent (l := text)).length_le
  rw [read] at found
  simp only [List.length_cons] at found
  omega

/-- The statements from a place on. A key that the file ends in is an error, unless its line is
indented; so is a separator without a key, a heading that is not closed and a comment sign behind
blanks.
-/
def statements (place : Place) : Option (List Statement) :=
  match _ : place.rest with
  | [] => some []
  | c :: rest =>
      if c = '#' ∨ c = ';' then
        -- A comment takes its whole line.
        if place.lineStart then
          statements (skipToContent true (skipComment rest))
        else
          none
      else if c = '[' then
        match _ : readUntil (· == ']') rest with
        | (_, []) => none
        | (name, _ :: after) =>
            -- What follows the bracket on its line is read on as a key.
            (statements (skipToContent false after)).map (.heading (trim name) :: ·)
      -- A separator here has no key before it.
      else if isSeparator c then
        none
      else
        match _ : readUntil isSeparator ((c :: rest).dropWhile isIndent) with
        -- Blanks at the end of a file are no key.
        | (_, []) => if isIndent c then some [] else none
        | (key, _ :: after) =>
            if (trim key).isEmpty then
              none
            else
              (statements (skipToContent false (readValue after).2)).map
                (.option (trim key) (readValue after).1 :: ·)
termination_by place.rest.length
decreasing_by
  all_goals rw [‹place.rest = c :: rest›]
  · exact length_lt_of_comment c rest
  · exact length_lt_of_heading c ‹_›
  · exact length_lt_of_option ‹_›

/-! Sections -/

/-- The options at the start of some statements, up to the next heading. -/
def leadingOptions : List Statement → List (String × String)
  | .option key value :: rest => (String.ofList key, String.ofList value) :: leadingOptions rest
  | _ => []

/-- The sections among some statements. Options before the first heading belong to none. -/
def sectionsOf : List Statement → List OptionSection
  | [] => []
  | .option _ _ :: rest => sectionsOf rest
  | .heading name :: rest => ⟨String.ofList name, leadingOptions rest⟩ :: sectionsOf rest

/-- The text without a byte order mark. -/
def dropMark (text : List Char) : List Char :=
  match text with
  | c :: rest => if c.toNat = 0xFEFF then rest else text
  | [] => []

/-- Reads the text of an option file. -/
def ofText? (text : List Char) : Option OptionFile :=
  (statements (skipBlanks true (dropMark text))).map fun found => ⟨sectionsOf found⟩

/-- Reads the bytes of an option file, which must encode text. -/
def ofBytes? (content : ByteArray) : Option OptionFile :=
  (String.fromUTF8? content).bind fun text => ofText? text.toList

/-- The value of an option in the first section of a name. Of several options of the key the
first one counts.
-/
def value? (file : OptionFile) (sectionName key : String) : Option String :=
  (file.sections.find? (·.name == sectionName)).bind fun found => found.options.lookup key

end OptionFile

end AddonPackager
