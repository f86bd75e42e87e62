import AddonPackager.Json.Number
import AddonPackager.Json.Value
import AddonPackager.Text.Search

/-! Strict JSON. Arrays and objects nest to a limited depth, texts hold no control characters and
no lone surrogates, and every number fits a double. What is wrong with a text, and where, is left out,
and a number keeps its text instead of a value.
-/

namespace AddonPackager.Json.Strict

open Text

/-- The depth to which arrays and objects may nest. -/
def nestingLimit : Nat := 127

/-- The blanks of strict JSON. -/
def isSpace (c : Char) : Bool :=
  c == ' ' || c == '\n' || c == '\r' || c == '\t'

/-- The text from its first character that is not blank. -/
def skipSpace (text : List Char) : List Char :=
  text.dropWhile isSpace

/-! Texts -/

def readUnit? : List Char → Option (Nat × List Char)
  | a :: b :: c :: d :: rest =>
      if [a, b, c, d].all isHexDigit then some (ofHexDigits [a, b, c, d], rest) else none
  | _ => none

/-- Whether a code unit is the first half of a surrogate pair. -/
def isHighSurrogate (unit : Nat) : Bool :=
  0xD800 ≤ unit && unit ≤ 0xDBFF

/-- Whether a code unit is the second half of a surrogate pair. -/
def isLowSurrogate (unit : Nat) : Bool :=
  0xDC00 ≤ unit && unit ≤ 0xDFFF

/-- The character of a surrogate pair. -/
def ofSurrogates (high low : Nat) : Char :=
  Char.ofNat (0x10000 + (high - 0xD800) * 0x400 + (low - 0xDC00))

/-- The character of a unicode escape, whose digits the text starts with. Surrogates have to come
in pairs.
-/
def readUnicode? (text : List Char) : Option (Char × List Char) := do
  let (unit, rest) ← readUnit? text
  if isHighSurrogate unit then
    -- The other half has to follow as an escape of its own.
    let second ← stripPrefix? ['\\', 'u'] rest
    let (low, rest) ← readUnit? second
    if isLowSurrogate low then some (ofSurrogates unit low, rest) else none
  else if isLowSurrogate unit then
    none
  else
    some (Char.ofNat unit, rest)

/-- The character that a one letter escape stands for. -/
def simpleEscape? (c : Char) : Option Char :=
  if c = '"' || c = '\\' || c = '/' then some c
  else if c = 'b' then some '\x08'
  else if c = 'f' then some '\x0c'
  else if c = 'n' then some '\n'
  else if c = 'r' then some '\r'
  else if c = 't' then some '\t'
  else none

/-- The characters up to the closing quote, and what follows it. -/
def readTextChars? : Nat → List Char → Option (List Char × List Char)
  | 0, _ => none
  | steps + 1, text =>
      match text with
      | [] => none
      | '"' :: rest => some ([], rest)
      | '\\' :: 'u' :: rest => do
          let (c, rest) ← readUnicode? rest
          let (chars, rest) ← readTextChars? steps rest
          some (c :: chars, rest)
      | '\\' :: e :: rest => do
          let c ← simpleEscape? e
          let (chars, rest) ← readTextChars? steps rest
          some (c :: chars, rest)
      | c :: rest =>
          -- Control characters have to be written as escapes.
          if c = '\\' || c.toNat < 0x20 then
            none
          else do
            let (chars, rest) ← readTextChars? steps rest
            some (c :: chars, rest)

/-- A text behind its opening quote. -/
def readText? (text : List Char) : Option (String × List Char) :=
  (readTextChars? (text.length + 1) text).map fun (chars, rest) => (String.ofList chars, rest)

/-! Numbers -/

/-- The digits of an integer part: a zero, or digits that do not start with one. -/
def readWhole? (text : List Char) : Option (List Char × List Char) :=
  match text with
  | '0' :: rest => if rest.head?.any Char.isDigit then none else some (['0'], rest)
  | c :: _ => if c.isDigit then some (text.span Char.isDigit) else none
  | [] => none

/-- The digits behind a mark, at least one; none without the mark. -/
def readDigitsAfter? (isMark : Char → Bool) (text : List Char)
    : Option (List Char × List Char) :=
  match text with
  | c :: rest =>
      if isMark c then
        if rest.head?.any Char.isDigit then some (rest.span Char.isDigit) else none
      else
        some ([], text)
  | [] => some ([], [])

/-- The exponent part of a number; zero without one. -/
def readExponent? (text : List Char) : Option (Int × List Char) :=
  match text with
  | c :: rest =>
      if c = 'e' || c = 'E' then
        let (sign, digits) : Int × List Char :=
          match rest with
          | '-' :: digits => (-1, digits)
          | '+' :: digits => (1, digits)
          | digits => (1, digits)
        if digits.head?.any Char.isDigit then
          some (sign * ofDigits (digits.takeWhile Char.isDigit), digits.dropWhile Char.isDigit)
        else
          none
      else
        some (0, text)
  | [] => some (0, [])

/-- A number, which has to fit a double. -/
def readNumber? (text : List Char) : Option (Json × List Char) := do
  let unsigned := match text with
    | '-' :: rest => rest
    | _ => text
  let (whole, rest) ← readWhole? unsigned
  let (fraction, rest) ← readDigitsAfter? (· == '.') rest
  let (exponent, rest) ← readExponent? rest
  if (Decimal.ofParts whole fraction exponent).fitsDouble then
    some (.number (String.ofList (text.take (text.length - rest.length))), rest)
  else
    none

/-! Values -/

mutual

/-- A value and what follows it. `depth` is how much deeper values may nest. -/
def readValue? : Nat → Nat → List Char → Option (Json × List Char)
  | 0, _, _ => none
  | steps + 1, depth, text =>
      match skipSpace text with
      | '"' :: rest => (readText? rest).map fun (value, rest) => (.string value, rest)
      | '[' :: rest =>
          if depth = 0 then
            none
          else
            match skipSpace rest with
            | ']' :: rest => some (.array [], rest)
            | rest => (readItems? steps (depth - 1) rest).map fun (items, rest) =>
                (.array items, rest)
      | '{' :: rest =>
          if depth = 0 then
            none
          else
            match skipSpace rest with
            | '}' :: rest => some (.object [], rest)
            | rest => (readMembers? steps (depth - 1) rest).map fun (members, rest) =>
                (.object members, rest)
      | text =>
          if let some rest := stripPrefix? "null".toList text then some (.null, rest)
          else if let some rest := stripPrefix? "true".toList text then some (.bool true, rest)
          else if let some rest := stripPrefix? "false".toList text then some (.bool false, rest)
          else readNumber? text

/-- The items of an array from one item on, and what follows the closing bracket. -/
def readItems? : Nat → Nat → List Char → Option (List Json × List Char)
  | 0, _, _ => none
  | steps + 1, depth, text => do
      let (item, rest) ← readValue? steps depth text
      match skipSpace rest with
      | ',' :: rest =>
          let (items, rest) ← readItems? steps depth rest
          some (item :: items, rest)
      | ']' :: rest => some ([item], rest)
      | _ => none

/-- The members of an object from one member on, and what follows the closing brace. -/
def readMembers? : Nat → Nat → List Char → Option (List (String × Json) × List Char)
  | 0, _, _ => none
  | steps + 1, depth, text => do
      let opened ← stripPrefix? ['"'] (skipSpace text)
      let (name, rest) ← readText? opened
      let afterColon ← stripPrefix? [':'] (skipSpace rest)
      let (value, rest) ← readValue? steps depth afterColon
      match skipSpace rest with
      | ',' :: rest =>
          let (members, rest) ← readMembers? steps depth rest
          some ((name, value) :: members, rest)
      | '}' :: rest => some ([(name, value)], rest)
      | _ => none

end

/-- Reads a text that is one JSON value. Every step takes a character, so twice the length of the
text is more than enough steps.
-/
def parse? (text : List Char) : Option Json :=
  match readValue? (2 * text.length + 2) nestingLimit text with
  | some (value, rest) => if (skipSpace rest).isEmpty then some value else none
  | none => none

end AddonPackager.Json.Strict
