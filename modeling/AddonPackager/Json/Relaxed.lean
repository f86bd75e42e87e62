import AddonPackager.Json.Strict
import AddonPackager.Unicode.Class

/-! Relaxed JSON: comments, unquoted names, single quotes, trailing commas, line continuations and
more forms of numbers. What is wrong with a text, and where, is left out. So are the values of numbers:
a number keeps its text, and all that is asked of it is whether it can be read.
-/

namespace AddonPackager.Json.Relaxed

open Text Unicode

/-! Blanks and comments -/

def isLineTerminator (c : Char) : Bool :=
  c == '\n' || c == '\r' || c.toNat == 0x2028 || c.toNat == 0x2029

/-- The blanks of relaxed JSON: space separators, the line terminators, tabs and feeds, and the
byte order mark.
-/
def isSpace (c : Char) : Bool :=
  (isBlank c && c.toNat != 0x85) || c.toNat == 0xFEFF

/-- What follows a block comment is shorter than the text that starts with it. -/
theorem length_lt_of_blockComment {inside before after : List Char}
    (closed : cut ['*', '/'] inside = some (before, after))
    : after.length < inside.length + 2 := by
  rw [eq_of_cut closed]
  simp only [List.length_append]
  omega

/-- What follows the characters of a line is shorter than the comment that they are in. -/
theorem length_lt_of_lineComment (inside : List Char)
    : (inside.dropWhile (!isLineTerminator ·)).length < inside.length + 2 := by
  have shorter := (List.dropWhile_suffix (!isLineTerminator ·) (l := inside)).length_le
  omega

/-- Skips blanks and comments. A block comment that is not closed is left alone. -/
def skipSpace (text : List Char) : List Char :=
  match text with
  | [] => []
  | '/' :: '*' :: inside =>
      match _ : cut ['*', '/'] inside with
      | some (_, after) => skipSpace after
      | none => text
  | '/' :: '/' :: inside => skipSpace (inside.dropWhile (!isLineTerminator ·))
  | c :: rest => if isSpace c then skipSpace rest else c :: rest
termination_by text.length
decreasing_by
  · exact length_lt_of_blockComment ‹_›
  · exact length_lt_of_lineComment inside
  · exact Nat.lt_succ_self rest.length

/-! Texts and names -/

/-- What an escape stands for, whose text behind the backslash is given: a character, or nothing
at a line continuation.
-/
def readEscape? (text : List Char) : Option (List Char × List Char) :=
  match text with
  | [] => none
  | '\r' :: '\n' :: rest => some ([], rest)
  | c :: rest =>
      -- An escaped line end is a continuation and stands for nothing.
      if isLineTerminator c then some ([], rest)
      else if c = 'u' then (Strict.readUnicode? rest).map fun (c, rest) => ([c], rest)
      else if c = 'x' then
        match rest with
        | a :: b :: rest =>
            if isHexDigit a && isHexDigit b then
              some ([Char.ofNat (ofHexDigits [a, b])], rest)
            else
              none
        | _ => none
      else if c = '0' then some (['\x00'], rest)
      else if c.isDigit then none
      else if c = 'b' then some (['\x08'], rest)
      else if c = 'f' then some (['\x0c'], rest)
      else if c = 'n' then some (['\n'], rest)
      else if c = 'r' then some (['\r'], rest)
      else if c = 't' then some (['\t'], rest)
      else if c = 'v' then some (['\x0b'], rest)
      -- Any other character stands for itself.
      else some ([c], rest)

/-- The characters up to the closing quote, and what follows it. -/
def readTextChars? (quote : Char) : Nat → List Char → Option (List Char × List Char)
  | 0, _ => none
  | steps + 1, text =>
      match text with
      | [] => none
      | c :: rest =>
          if c = quote then
            some ([], rest)
          else if c = '\\' then do
            let (escaped, rest) ← readEscape? rest
            let (chars, rest) ← readTextChars? quote steps rest
            some (escaped ++ chars, rest)
          else if isLineTerminator c then
            none
          else do
            let (chars, rest) ← readTextChars? quote steps rest
            some (c :: chars, rest)

/-- A text behind its opening quote. -/
def readText? (quote : Char) (text : List Char) : Option (String × List Char) :=
  (readTextChars? quote (text.length + 1) text).map fun (chars, rest) =>
    (String.ofList chars, rest)

def startsName (c : Char) : Bool :=
  isLetter c || c == '$' || c == '_'

/-- Characters that go on with an unquoted name. -/
def continuesName (c : Char) : Bool :=
  startsName c || inRanges nonspacingMarks c.toNat || inRanges diacritics c.toNat || isDecimal c
    || isConnector c || isJoinControl c

/-- The characters of an unquoted name from one on, and what follows them. -/
def readNameChars (isChar : Char → Bool) : Nat → List Char → List Char × List Char
  | 0, text => ([], text)
  | steps + 1, text =>
      match text with
      | '\\' :: 'u' :: escape =>
          match Strict.readUnicode? escape with
          | some (c, rest) =>
              let read := readNameChars continuesName steps rest
              (c :: read.1, read.2)
          | none => ([], text)
      | c :: rest =>
          if isChar c then
            let read := readNameChars continuesName steps rest
            (c :: read.1, read.2)
          else
            ([], text)
      | [] => ([], [])

/-- The name of a member, quoted or not. -/
def readName? (text : List Char) : Option (String × List Char) :=
  match text with
  | '"' :: rest => readText? '"' rest
  | '\'' :: rest => readText? '\'' rest
  | _ =>
      match readNameChars startsName (text.length + 1) text with
      | ([], _) => none
      | (chars, rest) => some (String.ofList chars, rest)

/-! Numbers -/

/-- The exponent part of a number that a text starts with; nothing if digits are missing. -/
def skipExponent (text : List Char) : List Char :=
  match text with
  | c :: rest =>
      if c = 'e' || c = 'E' then
        let digits := match rest with
          | '+' :: digits => digits
          | '-' :: digits => digits
          | digits => digits
        if digits.head?.any Char.isDigit then digits.dropWhile Char.isDigit else text
      else
        text
  | [] => []

/-- What follows a decimal number that a text starts with. -/
def skipDecimal? (text : List Char) : Option (List Char) :=
  match text with
  | '.' :: rest =>
      if rest.head?.any Char.isDigit then
        some (skipExponent (rest.dropWhile Char.isDigit))
      else
        none
  | c :: rest =>
      if c.isDigit then
        match if c = '0' then rest else rest.dropWhile Char.isDigit with
        | '.' :: rest => some (skipExponent (rest.dropWhile Char.isDigit))
        | rest => some (skipExponent rest)
      else
        none
  | [] => none

/-- What follows a number without sign that a text starts with. -/
def skipNumber? (text : List Char) : Option (List Char) :=
  match text with
  | '0' :: x :: digit :: rest =>
      if (x = 'x' || x = 'X') && isHexDigit digit then
        some (rest.dropWhile isHexDigit)
      else
        skipDecimal? text
  | _ =>
      match skipDecimal? text with
      | some rest => some rest
      | none =>
          (stripPrefix? "Infinity".toList text).orElse fun _ => stripPrefix? "NaN".toList text

/-- A number, kept as its text. -/
def readNumber? (text : List Char) : Option (Json × List Char) :=
  let unsigned := match text with
    | '+' :: rest => rest
    | '-' :: rest => rest
    | _ => text
  (skipNumber? unsigned).map fun rest =>
    (.number (String.ofList (text.take (text.length - rest.length))), rest)

/-! Values -/

mutual

def readValue? : Nat → List Char → Option (Json × List Char)
  | 0, _ => none
  | steps + 1, text =>
      match skipSpace text with
      | '"' :: rest => (readText? '"' rest).map fun (value, rest) => (.string value, rest)
      | '\'' :: rest => (readText? '\'' rest).map fun (value, rest) => (.string value, rest)
      | '[' :: rest =>
          match skipSpace rest with
          | ']' :: rest => some (.array [], rest)
          | rest => (readItems? steps rest).map fun (items, rest) => (.array items, rest)
      | '{' :: rest =>
          match skipSpace rest with
          | '}' :: rest => some (.object [], rest)
          | rest => (readMembers? steps rest).map fun (members, rest) => (.object members, rest)
      | text =>
          if let some rest := stripPrefix? "null".toList text then some (.null, rest)
          else if let some rest := stripPrefix? "true".toList text then some (.bool true, rest)
          else if let some rest := stripPrefix? "false".toList text then some (.bool false, rest)
          else readNumber? text

/-- The items of an array from one item on, and what follows the closing bracket. -/
def readItems? : Nat → List Char → Option (List Json × List Char)
  | 0, _ => none
  | steps + 1, text => do
      let (item, rest) ← readValue? steps text
      match skipSpace rest with
      | ']' :: rest => some ([item], rest)
      | ',' :: rest =>
          match skipSpace rest with
          | ']' :: rest => some ([item], rest)
          | rest =>
              let (items, rest) ← readItems? steps rest
              some (item :: items, rest)
      | _ => none

/-- The members of an object from one member on, and what follows the closing brace. -/
def readMembers? : Nat → List Char → Option (List (String × Json) × List Char)
  | 0, _ => none
  | steps + 1, text => do
      let (name, rest) ← readName? (skipSpace text)
      let afterColon ← stripPrefix? [':'] (skipSpace rest)
      let (value, rest) ← readValue? steps afterColon
      match skipSpace rest with
      | '}' :: rest => some ([(name, value)], rest)
      | ',' :: rest =>
          match skipSpace rest with
          | '}' :: rest => some ([(name, value)], rest)
          | rest =>
              let (members, rest) ← readMembers? steps rest
              some ((name, value) :: members, rest)
      | _ => none

end

/-- Reads a text that is one value. Every step takes a character, so twice the length of the text
is more than enough steps.
-/
def parse? (text : List Char) : Option Json :=
  match readValue? (2 * text.length + 2) text with
  | some (value, rest) => if (skipSpace rest).isEmpty then some value else none
  | none => none

/-! Readable numbers -/

/-- Whether a number can be taken for a value: hexadecimal numbers fit 32 bits, integers fit 64
bits with sign, and all other numbers are finite or spelled as not.
-/
def isReadableNumber (text : List Char) : Bool :=
  let unsigned := match text with
    | '+' :: rest => rest
    | '-' :: rest => rest
    | _ => text
  let isHex := match unsigned with
    | '0' :: x :: _ => x == 'x' || x == 'X'
    | _ => false
  if isHex then
    -- A hexadecimal number has no sign.
    text.head? == some '0' && ofHexDigits (unsigned.drop 2) < Nat.pow 2 32
  else if unsigned.head?.any Char.isAlpha then
    text.head? != some '+'
  else if unsigned.any fun c => c == '.' || c == 'e' || c == 'E' then
    (Decimal.ofText unsigned).fitsDouble
  else if text.head? == some '-' then
    ofDigits unsigned ≤ Nat.pow 2 63
  else
    ofDigits unsigned < Nat.pow 2 63

/-- Whether all numbers inside a value can be taken for values. -/
def isReadable : Json → Bool
  | .number text => isReadableNumber text.toList
  | .array items => items.attach.all fun ⟨item, _⟩ => isReadable item
  | .object members => members.attach.all fun ⟨member, _⟩ => isReadable member.2
  | _ => true
decreasing_by
  · simp_wf
    have := List.sizeOf_lt_of_mem ‹_›
    omega
  · simp_wf
    rename_i inside
    have := List.sizeOf_lt_of_mem inside
    obtain ⟨name, value⟩ := member
    simp at this ⊢
    omega

end AddonPackager.Json.Relaxed
