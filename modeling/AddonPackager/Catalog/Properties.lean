import AddonPackager.Text.Split
import AddonPackager.Text.Trim

/-! Reading the lines of a properties catalog.
-/

namespace AddonPackager.Properties

open Text

/-- What a line is. -/
inductive Line where
  | comment
  | entry (key value : List Char)
  | blank
  | unrecognized
  deriving DecidableEq, Repr

/-- Whether the first character of a line that is not blank opens a comment. -/
def isComment (line : List Char) : Bool :=
  match trimStart line with
  | c :: _ => c == '#' || c == '!'
  | [] => false

/-- Reads a line: a comment, an entry split at its first equals sign, or neither. -/
def readLine (line : List Char) : Line :=
  if isComment line then
    .comment
  else
    match splitOnce '=' line with
    | some (key, value) => .entry (trim key) (trim value)
    | none => if (trim line).isEmpty then .blank else .unrecognized

/-- The entries of a text in file order, repeated keys included. -/
def entries (text : List Char) : List (String × String) :=
  (lines text).filterMap fun line =>
    match readLine line with
    | .entry key value => some (String.ofList key, String.ofList value)
    | _ => none

/-- The lines of a text that are not recognized. -/
def unrecognized (text : List Char) : List String :=
  ((lines text).filter (readLine · = .unrecognized)).map String.ofList

end AddonPackager.Properties
