import AddonPackager.Catalog.Format
import AddonPackager.Text.Split
import AddonPackager.Text.Trim

/-! Reading the entity declarations of a DTD catalog. Comments are taken out first; between the
declarations only blanks may remain.
-/

namespace AddonPackager.Dtd

open Text Unicode

/-- What follows a comment is shorter than the text that starts with it. -/
theorem length_lt_of_comment {text inside before after : List Char}
    (opened : stripPrefix? "<!--".toList text = some inside)
    (closed : cut "-->".toList inside = some (before, after))
    : after.length < text.length := by
  rw [stripPrefix?_eq_some_iff.mp opened, eq_of_cut closed]
  simp only [List.length_append]
  have dash : "<!--".toList.length = 4 := by decide
  omega

/-- The text without its comments, each as short as possible. A comment that is never closed is
no comment.
-/
def removeComments (text : List Char) : List Char :=
  match text with
  | [] => []
  | c :: rest =>
      match _ : stripPrefix? "<!--".toList (c :: rest) with
      | some inside =>
          match _ : cut "-->".toList inside with
          | some (_, after) => removeComments after
          | none => c :: removeComments rest
      | none => c :: removeComments rest
termination_by text.length
decreasing_by
  · exact length_lt_of_comment ‹_› ‹_›
  all_goals exact Nat.lt_succ_self rest.length

/-- An entity declaration: the name and the value between the quotes. -/
structure Declaration where
  name : List Char
  value : List Char
  deriving DecidableEq, Repr

/-- A quoted value at the start of a text, with what follows the closing quote. -/
def quotedValue? : List Char → Option (List Char × List Char)
  | '"' :: rest => splitOnce '"' rest
  | '\'' :: rest => splitOnce '\'' rest
  | _ => none

/-- Takes at least one blank off the start of a text. -/
def skipBlanks? : List Char → Option (List Char)
  | [] => none
  | c :: rest => if isBlank c then some (trimStart rest) else none

/-- The declaration that a text starts with, and the rest of the text. -/
def declaration? (text : List Char) : Option (Declaration × List Char) := do
  let afterKeyword ← stripPrefix? "<!ENTITY".toList text
  let atName ← skipBlanks? afterKeyword
  let name := atName.takeWhile CatalogFormat.isEntityChar
  guard !name.isEmpty
  let atValue ← skipBlanks? (atName.dropWhile CatalogFormat.isEntityChar)
  let (value, afterValue) ← quotedValue? atValue
  match trimStart afterValue with
  | '>' :: rest => some (⟨name, value⟩, rest)
  | _ => none

/-- Blanks that are skipped come before what is kept. -/
theorem suffix_of_skipBlanks? {text rest : List Char} (skipped : skipBlanks? text = some rest)
    : rest <:+ text := by
  cases text with
  | nil => simp [skipBlanks?] at skipped
  | cons c tail =>
      rw [skipBlanks?] at skipped
      split at skipped
      · cases skipped
        exact (List.dropWhile_suffix _).trans (List.suffix_cons c tail)
      · simp at skipped

/-- A quoted value comes before what follows its closing quote. -/
theorem suffix_of_quotedValue? {text value rest : List Char}
    (found : quotedValue? text = some (value, rest))
    : rest <:+ text := by
  unfold quotedValue? at found
  split at found
  · rename_i tail
    exact ⟨'"' :: value ++ ['"'], by simp [eq_of_splitOnce found]⟩
  · rename_i tail
    exact ⟨'\'' :: value ++ ['\''], by simp [eq_of_splitOnce found]⟩
  · simp at found

/-- A declaration takes characters off the text. -/
theorem length_lt_of_declaration? {text rest : List Char} {declaration : Declaration}
    (found : declaration? text = some (declaration, rest))
    : rest.length < text.length := by
  obtain ⟨afterKeyword, keyword, found⟩ := Option.bind_eq_some_iff.mp found
  obtain ⟨atName, toName, found⟩ := Option.bind_eq_some_iff.mp found
  obtain ⟨-, -, found⟩ := Option.bind_eq_some_iff.mp found
  obtain ⟨atValue, toValue, found⟩ := Option.bind_eq_some_iff.mp found
  obtain ⟨⟨value, afterValue⟩, quoted, closed⟩ := Option.bind_eq_some_iff.mp found
  dsimp only at closed
  split at closed
  · rename_i rest' blanks
    cases closed
    have h₁ := congrArg List.length (stripPrefix?_eq_some_iff.mp keyword)
    have h₂ := (suffix_of_skipBlanks? toName).length_le
    have h₃ := (suffix_of_skipBlanks? toValue).length_le
    have h₄ := (List.dropWhile_suffix CatalogFormat.isEntityChar (l := atName)).length_le
    have h₅ := (suffix_of_quotedValue? quoted).length_le
    have h₆ : (trimStart afterValue).length ≤ afterValue.length :=
      (List.dropWhile_suffix _).length_le
    rw [blanks] at h₆
    simp at h₁ h₆
    omega
  · simp at closed

/-- What is shown of content that is no declaration. -/
def snippet (gap : List Char) : List Char :=
  (trim gap).take 40

/-- The declarations of a text, where `gap` is what was passed over since the last one, latest
character first. The first gap that is not blank is the error.
-/
def scan (gap text : List Char) : Except (List Char) (List Declaration) :=
  match text with
  | [] => if (trim gap.reverse).isEmpty then .ok [] else .error (snippet gap.reverse)
  | c :: rest =>
      match found : declaration? (c :: rest) with
      | some (declaration, after) =>
          have : after.length < rest.length + 1 := length_lt_of_declaration? found
          if (trim gap.reverse).isEmpty then
            (scan [] after).map (declaration :: ·)
          else
            .error (snippet gap.reverse)
      | none => scan (c :: gap) rest
termination_by text.length

/-- An entity value with its references to the five predefined entities resolved, one entity
after the other.
-/
def unescape (value : List Char) : List Char :=
  replaceAll "&amp;".toList ['&']
    (replaceAll "&apos;".toList ['\'']
      (replaceAll "&quot;".toList ['"']
        (replaceAll "&gt;".toList ['>']
          (replaceAll "&lt;".toList ['<'] value))))

/-- The entries of a text in file order, repeated keys included. -/
def entries (text : List Char) : Except (List Char) (List (String × String)) :=
  (scan [] (removeComments text)).map fun declarations =>
    declarations.map fun declaration =>
      (String.ofList declaration.name, String.ofList (unescape declaration.value))

end AddonPackager.Dtd
