import AddonPackager.Text.Search
import AddonPackager.Text.Split
import AddonPackager.Text.Trim

/-! What a script asks of the code that starts the add-on: the modules it requires and the
features it uses.
-/

namespace AddonPackager.Script

open Text Unicode

def isModuleChar (c : Char) : Bool :=
  isWord c || c == '-'

/-- The module of a require call that a text starts with, and the rest of the text. -/
def requireCall? (text : List Char) : Option (List Char × List Char) := do
  let inside ← stripPrefix? "require(".toList text
  let named ← stripPrefix? ['"'] (trimStart inside)
  let name := named.takeWhile isModuleChar
  guard !name.isEmpty
  let afterName ← stripPrefix? ['"'] (named.dropWhile isModuleChar)
  let rest ← stripPrefix? [')'] (trimStart afterName)
  some (name, rest)

/-- Everything that a require call does not take is a suffix of the text. -/
theorem length_lt_of_requireCall? {text name rest : List Char}
    (found : requireCall? text = some (name, rest))
    : rest.length < text.length := by
  obtain ⟨inside, opened, found⟩ := Option.bind_eq_some_iff.mp found
  obtain ⟨named, quote, found⟩ := Option.bind_eq_some_iff.mp found
  obtain ⟨-, -, found⟩ := Option.bind_eq_some_iff.mp found
  obtain ⟨afterName, unquote, found⟩ := Option.bind_eq_some_iff.mp found
  obtain ⟨rest', closed, same⟩ := Option.bind_eq_some_iff.mp found
  cases same
  have h₁ := congrArg List.length (stripPrefix?_eq_some_iff.mp opened)
  have h₂ := congrArg List.length (stripPrefix?_eq_some_iff.mp quote)
  have h₃ := congrArg List.length (stripPrefix?_eq_some_iff.mp unquote)
  have h₄ := congrArg List.length (stripPrefix?_eq_some_iff.mp closed)
  have h₅ : (trimStart inside).length ≤ inside.length := (List.dropWhile_suffix _).length_le
  have h₆ : (trimStart afterName).length ≤ afterName.length := (List.dropWhile_suffix _).length_le
  have h₇ := (List.dropWhile_suffix isModuleChar (l := named)).length_le
  simp at h₁ h₂ h₃ h₄
  omega

/-- The modules of the require calls that stand behind a blank, in order. A call is passed as a
whole before the search goes on.
-/
def requiresBehindBlank (text : List Char) : List (List Char) :=
  match text with
  | [] => []
  | c :: rest =>
      if isBlank c then
        match found : requireCall? rest with
        | some (name, after) =>
            have := length_lt_of_requireCall? found
            name :: requiresBehindBlank after
        | none => requiresBehindBlank rest
      else
        requiresBehindBlank rest
termination_by text.length

/-- The required modules in order of appearance. A call counts at the start of the script and
behind a blank.
-/
def requires (text : List Char) : List String :=
  let names :=
    match requireCall? text with
    | some (name, after) => name :: requiresBehindBlank after
    | none => requiresBehindBlank text
  names.map String.ofList

/-- Whether a word stands in a text with no word character on either side; `previous` tells
whether one stands before the text.
-/
def hasWordFrom (word : List Char) (previous : Bool) : List Char → Bool
  | [] => false
  | c :: rest =>
      (!previous && match stripPrefix? word (c :: rest) with
        | some (after :: _) => !isWord after
        | some [] => true
        | none => false)
      || hasWordFrom word (isWord c) rest

/-- Whether a text uses the network request object. -/
def usesRequests (text : List Char) : Bool :=
  hasWordFrom "XMLHttpRequest".toList false text

/-- Whether a pattern stands behind a blank. -/
def standsBehindBlank (pattern : List Char) : List Char → Bool
  | [] => false
  | c :: rest => (isBlank c && pattern.isPrefixOf rest) || standsBehindBlank pattern rest

/-- Whether a text uses the shutdown handlers, at its start or behind a blank. -/
def usesShutdown (text : List Char) : Bool :=
  "onShutdown.".toList.isPrefixOf text || standsBehindBlank "onShutdown.".toList text

/-- What scanning a script finds. -/
structure Scan where
  requires : List String
  usesRequests : Bool
  usesShutdown : Bool
  deriving DecidableEq, Repr

def scan (text : List Char) : Scan :=
  ⟨requires text, usesRequests text, usesShutdown text⟩

end AddonPackager.Script
