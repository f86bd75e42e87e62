import AddonPackager.Text.Search
import AddonPackager.Text.Trim

/-! The window type that XUL markup declares.
-/

namespace AddonPackager.Script

open Text Unicode

/-- Characters that a window type can have. -/
def isWindowTypeChar (c : Char) : Bool :=
  c != '"' && c != '>'

/-- The value of a window type attribute that a text starts with. -/
def windowTypeHere? (text : List Char) : Option (List Char) := do
  let value ← stripPrefix? "windowtype=\"".toList text
  let type := value.takeWhile isWindowTypeChar
  guard !type.isEmpty
  let _ ← stripPrefix? ['"'] (value.dropWhile isWindowTypeChar)
  some type

/-- The last window type attribute of a tag, where `previous` tells whether a word character
stands before the text.
-/
def lastWindowType? (previous : Bool) : List Char → Option (List Char)
  | [] => none
  | c :: rest =>
      -- The last attribute of the tag wins, so what follows is asked first.
      let later := if c = '>' then none else lastWindowType? (isWord c) rest
      match later with
      | some type => some type
      | none => if previous then none else windowTypeHere? (c :: rest)

/-- The window type of a `window` or `dialog` tag that a text starts with. -/
def tagWindowType? (text : List Char) : Option (List Char) :=
  let inTag? := (stripPrefix? "<window".toList text).orElse fun _ =>
    stripPrefix? "<dialog".toList text
  match inTag? with
  | some (c :: rest) => if isBlank c then lastWindowType? (isWord c) rest else none
  | _ => none

/-- The window type of the first `window` or `dialog` tag that has one. -/
def windowTypeOf? : List Char → Option (List Char)
  | [] => none
  | c :: rest =>
      match tagWindowType? (c :: rest) with
      | some type => some type
      | none => windowTypeOf? rest

def windowType? (text : List Char) : Option String :=
  (windowTypeOf? text).map String.ofList

end AddonPackager.Script
