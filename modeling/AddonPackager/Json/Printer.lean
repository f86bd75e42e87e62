import AddonPackager.Json.Value
import AddonPackager.Text.Quoted
import AddonPackager.Text.Split

/-! Compact JSON text: no blanks, and escapes only for quotes, backslashes and control characters
below the space.
-/

namespace AddonPackager.Json

/-- A control character by its four hexadecimal digits. -/
def unicodeEscape (c : Char) : List Char :=
  let digits := Text.hexDigits c.toNat
  ['\\', 'u'] ++ List.replicate (4 - digits.length) '0' ++ digits

def escapedChar (c : Char) : List Char :=
  if c = '"' then ['\\', '"']
  else if c = '\\' then ['\\', '\\']
  else if c = '\x08' then ['\\', 'b']
  else if c = '\x0c' then ['\\', 'f']
  else if c = '\n' then ['\\', 'n']
  else if c = '\r' then ['\\', 'r']
  else if c = '\t' then ['\\', 't']
  else if c.toNat < 0x20 then unicodeEscape c
  else [c]

def quoted (text : String) : String :=
  String.ofList ('"' :: text.toList.flatMap escapedChar ++ ['"'])

/-- Texts separated by commas between an opening and a closing bracket. -/
def enclosed (opening closing : Char) (texts : List String) : String :=
  String.singleton opening ++ Text.join "," texts ++ String.singleton closing

mutual

/-- The text of a value without blanks. -/
def compact : Json → String
  | .null => "null"
  | .bool true => "true"
  | .bool false => "false"
  | .number text => text
  | .string value => quoted value
  | .array items => enclosed '[' ']' (compactItems items)
  | .object members => enclosed '{' '}' (compactMembers members)

/-- The texts of the items of an array. -/
def compactItems : List Json → List String
  | [] => []
  | item :: rest => compact item :: compactItems rest

/-- The texts of the members of an object. -/
def compactMembers : List (String × Json) → List String
  | [] => []
  | (name, value) :: rest => (quoted name ++ ":" ++ compact value) :: compactMembers rest

end

def ofTexts (texts : List String) : Json :=
  .array (texts.map .string)

end AddonPackager.Json
