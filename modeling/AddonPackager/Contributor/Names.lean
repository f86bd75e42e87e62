import AddonPackager.Text.Search
import AddonPackager.Text.Split
import AddonPackager.Text.Trim
import AddonPackager.Unicode.Case

/-! Harvesting names from the attributes of markup, and the order in which they are listed.
-/

namespace AddonPackager.Contributor

open Text Unicode

/-! Markup -/

/-- Whether a word ends between two characters: one of them is a word character, the other is
not or does not exist.
-/
def isBoundary (before after : Option Char) : Bool :=
  before.any isWord != after.any isWord

/-- The rest of a tag of the given name that a text starts with, up to and including its closing
bracket, and what follows the tag.
-/
def tagHere? (tag text : List Char) : Option (List Char × List Char) := do
  let opened ← stripPrefix? ('<' :: tag) text
  guard (isBoundary (('<' :: tag).getLast?) opened.head?)
  let (attributes, after) ← splitOnce '>' opened
  some (attributes ++ ['>'], after)

/-- A tag takes characters off the text. -/
theorem length_lt_of_tagHere? {tag text attributes rest : List Char}
    (found : tagHere? tag text = some (attributes, rest))
    : rest.length < text.length := by
  obtain ⟨opened, start, found⟩ := Option.bind_eq_some_iff.mp found
  obtain ⟨-, -, found⟩ := Option.bind_eq_some_iff.mp found
  obtain ⟨⟨inside, after⟩, closed, same⟩ := Option.bind_eq_some_iff.mp found
  obtain ⟨rfl, rfl⟩ := Prod.mk.inj (Option.some.inj same)
  have h₁ := congrArg List.length (stripPrefix?_eq_some_iff.mp start)
  have h₂ := congrArg List.length (eq_of_splitOnce closed)
  simp at h₁ h₂
  omega

/-- The tags of a name in order. A tag is passed as a whole before the search goes on. -/
def tags (tag text : List Char) : List (List Char) :=
  match text with
  | [] => []
  | c :: rest =>
      match found : tagHere? tag (c :: rest) with
      | some (attributes, after) =>
          have : after.length < rest.length + 1 := length_lt_of_tagHere? found
          ('<' :: tag ++ attributes) :: tags tag after
      | none => tags tag rest
termination_by text.length

/-- The quoted value behind an attribute name and an equals sign. -/
def valueBehind? (attributeName text : List Char) : Option (List Char) := do
  let named ← stripPrefix? attributeName text
  let assigned ← stripPrefix? ['='] (trimStart named)
  match trimStart assigned with
  | '"' :: rest => (splitOnce '"' rest).map (·.1)
  | '\'' :: rest => (splitOnce '\'' rest).map (·.1)
  | _ => none

/-- The value of the first attribute of a name, which has to stand behind a blank. -/
def attributeValue? (attributeName : List Char) : List Char → Option (List Char)
  | [] => none
  | c :: rest =>
      -- Without a blank before it, a name may be the end of a longer one.
      let here := if isBlank c then valueBehind? attributeName rest else none
      match here with
      | some value => some value
      | none => attributeValue? attributeName rest

/-- The names in a list separated by commas. -/
def namesIn (value : List Char) : List String :=
  (((value.splitOn ',').map trim).filter (!·.isEmpty)).map String.ofList

/-- The names that an attribute lists in the tags of a name, in order. -/
def attributeValues (text tag attributeName : List Char) : List String :=
  (tags tag text).flatMap fun element =>
    ((attributeValue? attributeName element).map namesIn).getD []

/-! Order -/

/-- Order of names: without regard to case first, then as they are. -/
def nameLess (a b : String) : Bool :=
  lower a < lower b || (lower a = lower b && a < b)

/-- Puts a name in its place unless it is there. -/
def insertName (name : String) : List String → List String
  | [] => [name]
  | other :: rest =>
      if name = other then other :: rest
      else if nameLess name other then name :: other :: rest
      else other :: insertName name rest

/-- Names in order, each once. -/
def sortNames (names : List String) : List String :=
  names.foldl (fun sorted name => insertName name sorted) []

end AddonPackager.Contributor
