import AddonPackager.Proofs.Catalog.DtdText
import AddonPackager.Proofs.Catalog.EntityText

/-! Entries at the end of DTD text. A comment that is never closed stays text, so what follows a
text must not close one; written entries never do, and they are read back with their keys.
-/

namespace AddonPackager.Dtd

open Text Unicode CatalogFormat

variable {text rest more after key value : List Char} {c : Char}

-----------------------------------------------------------------------------------------
-- Comments
-----------------------------------------------------------------------------------------

/-- What follows the comment that a text starts with. -/
def afterComment? (text : List Char) : Option (List Char) :=
  (stripPrefix? "<!--".toList text).bind fun inside =>
    (cut "-->".toList inside).map Prod.snd

/-- A text that closes no comment. -/
def ClosesNoComment (text : List Char) : Prop :=
  cut "-->".toList text = none

theorem afterComment?_eq_some_iff
    : afterComment? text = some after
      ↔ ∃ inside before,
          stripPrefix? "<!--".toList text = some inside
          ∧ cut "-->".toList inside = some (before, after) := by
  simp [afterComment?, Option.bind_eq_some_iff]

theorem length_lt_of_afterComment? (found : afterComment? text = some after)
    : after.length < text.length := by
  obtain ⟨inside, before, opened, closed⟩ := afterComment?_eq_some_iff.mp found
  have outer := congrArg List.length (stripPrefix?_eq_some_iff.mp opened)
  have inner := congrArg List.length (eq_of_cut closed)
  simp only [List.length_append] at outer inner
  have opener : "<!--".toList.length = 4 := rfl
  omega

@[simp] theorem removeComments_nil : removeComments [] = [] := by
  rw [removeComments]

theorem removeComments_of_comment (found : afterComment? (c :: rest) = some after)
    : removeComments (c :: rest) = removeComments after := by
  obtain ⟨inside, before, opened, closed⟩ := afterComment?_eq_some_iff.mp found
  rw [removeComments]
  split
  · rename_i inside' opened'
    rw [opened] at opened'
    cases opened'
    split
    · rename_i closed'
      rw [closed] at closed'
      cases closed'
      rfl
    · rename_i closed'
      cases closed.symm.trans closed'
  · rename_i opened'
    cases opened.symm.trans opened'

theorem removeComments_of_no_comment (absent : afterComment? (c :: rest) = none)
    : removeComments (c :: rest) = c :: removeComments rest := by
  rw [removeComments]
  split
  · rename_i inside opened
    split
    · rename_i before after closed
      cases absent.symm.trans (afterComment?_eq_some_iff.mpr ⟨inside, before, opened, closed⟩)
    · rfl
  · rfl

theorem afterComment?_append (found : afterComment? text = some after)
    : afterComment? (text ++ more) = some (after ++ more) := by
  obtain ⟨inside, before, opened, closed⟩ := afterComment?_eq_some_iff.mp found
  exact afterComment?_eq_some_iff.mpr
    ⟨inside ++ more, before, stripPrefix?_append opened, cut_append closed⟩

/-- No comment reaches over a line feed into a text that closes none. -/
theorem afterComment?_append_newline (absent : afterComment? text = none)
    (unclosed : ClosesNoComment more)
    : afterComment? (text ++ '\n' :: more) = none := by
  rw [afterComment?] at absent ⊢
  cases opened : stripPrefix? "<!--".toList text with
  | none => rw [stripPrefix?_append_separator (by decide) opened, Option.bind_none]
  | some inside =>
      rw [opened, Option.bind_some, Option.map_eq_none_iff] at absent
      rw [stripPrefix?_append opened, Option.bind_some,
        cut_append_separator (by decide) absent unclosed, Option.map_none]

/-- A text that closes no comment has none, by induction on the text. -/
theorem removeComments_of_closesNoComment (unclosed : ClosesNoComment text)
    : removeComments text = text := by
  induction text with
  | nil => simp
  | cons c rest ih =>
      rw [ClosesNoComment, cut_eq_none_iff] at unclosed
      have restUnclosed : ClosesNoComment rest :=
        cut_eq_none_iff.mpr fun inside => unclosed (List.infix_cons inside)
      have absent : afterComment? (c :: rest) = none := by
        rw [afterComment?, Option.bind_eq_none_iff]
        intro inside opened
        rw [Option.map_eq_none_iff, cut_eq_none_iff]
        intro closed
        rw [stripPrefix?_eq_some_iff.mp opened] at unclosed
        exact unclosed (closed.trans (List.suffix_append _ _).isInfix)
      rw [removeComments_of_no_comment absent, ih restUnclosed]

/-- Comments before a line feed do not depend on a text after it that closes none, by induction
on the length of the text.
-/
theorem removeComments_append_newline (unclosed : ClosesNoComment more)
    : removeComments (text ++ '\n' :: more) = removeComments text ++ '\n' :: more := by
  induction length : text.length using Nat.strong_induction_on generalizing text with
  | _ n ih =>
      cases text with
      | nil =>
          have absent : afterComment? ([] ++ '\n' :: more) = none :=
            afterComment?_append_newline rfl unclosed
          rw [List.nil_append] at absent ⊢
          rw [removeComments_of_no_comment absent, removeComments_of_closesNoComment unclosed]
          simp
      | cons c rest =>
          cases found : afterComment? (c :: rest) with
          | some after =>
              have longer : afterComment? (c :: rest ++ '\n' :: more)
                  = some (after ++ '\n' :: more) :=
                afterComment?_append found
              rw [List.cons_append] at longer ⊢
              rw [removeComments_of_comment found, removeComments_of_comment longer]
              exact ih after.length (length ▸ length_lt_of_afterComment? found) rfl
          | none =>
              have longer := afterComment?_append_newline found unclosed
              rw [List.cons_append] at longer ⊢
              rw [removeComments_of_no_comment found, removeComments_of_no_comment longer,
                ih rest.length (by simp [← length]) rfl, List.cons_append]

/-- Comments of a text do not depend on a text behind it that starts a line and closes none. -/
theorem removeComments_append (seam : StartsLine text more) (unclosed : ClosesNoComment more)
    : removeComments (text ++ more) = removeComments text ++ more := by
  cases seam with
  | first => simp [removeComments_of_closesNoComment unclosed]
  | after front =>
      have ending : removeComments (front ++ ['\n']) = removeComments front ++ ['\n'] :=
        removeComments_append_newline rfl
      rw [ending, List.append_assoc, List.append_assoc]
      exact removeComments_append_newline unclosed
  | own text rest =>
      have restUnclosed : ClosesNoComment rest := by
        rw [ClosesNoComment, cut_eq_none_iff] at unclosed ⊢
        exact fun inside => unclosed (List.infix_cons inside)
      exact removeComments_append_newline restUnclosed

-----------------------------------------------------------------------------------------
-- Entries of a text
-----------------------------------------------------------------------------------------

variable {declarations : List Declaration} {known : List (String × String)}

/-- The entry that a declaration makes. -/
def Declaration.entry (declaration : Declaration) : String × String :=
  (String.ofList declaration.name, String.ofList (unescape declaration.value))

/-- The entries of a text are those of its declarations, once the comments are taken out. -/
theorem entries_eq_ok_iff
    : entries text = .ok known
      ↔ ∃ declarations,
          Declares (removeComments text) declarations
          ∧ known = declarations.map Declaration.entry := by
  rw [entries]
  constructor
  · intro read
    cases scanned : scan [] (removeComments text) with
    | error snippet => simp [scanned, Except.map] at read
    | ok declarations =>
        simp only [scanned, Except.map, Except.ok.injEq] at read
        exact ⟨declarations, scan_eq_ok_iff.mp scanned, read.symm⟩
  · rintro ⟨declarations, declares, rfl⟩
    rw [scan_eq_ok_iff.mpr declares]
    rfl

/-- Declarations behind a text add their entries at the end. -/
theorem entries_append (read : entries text = .ok known) (declares : Declares more declarations)
    (seam : StartsLine text more) (unclosed : ClosesNoComment more)
    : entries (text ++ more) = .ok (known ++ declarations.map Declaration.entry) := by
  obtain ⟨earlier, declaresEarlier, rfl⟩ := entries_eq_ok_iff.mp read
  refine entries_eq_ok_iff.mpr ⟨earlier ++ declarations, ?_, by simp⟩
  rw [removeComments_append seam unclosed]
  exact declaresEarlier.append declares

-----------------------------------------------------------------------------------------
-- Keys
-----------------------------------------------------------------------------------------

/-- What an entry can have as its key: a run of name characters. -/
structure IsKey (key : List Char) : Prop where
  nonempty : key ≠ []
  inside : ∀ c ∈ key, isEntityChar c = true

theorem isKey_of_mem_entries {entry : String × String} (read : entries text = .ok known)
    (member : entry ∈ known)
    : IsKey entry.1.toList := by
  obtain ⟨declarations, declares, rfl⟩ := entries_eq_ok_iff.mp read
  obtain ⟨declaration, declared, rfl⟩ := List.mem_map.mp member
  obtain ⟨nonempty, inside⟩ := declares.named declaration declared
  simpa [Declaration.entry] using IsKey.mk nonempty inside

theorem IsKey.escapeEntity (isKey : IsKey key) : escapeEntity key = key := by
  have ordinary : ∀ c ∈ key, Piece.IsOrdinary c := by
    intro c member
    have inside := isKey.inside c member
    refine ⟨?_, ?_, ?_, ?_, ?_⟩ <;> rintro rfl <;> exact absurd inside (by decide)
  have written : CatalogFormat.escapeEntity (key ++ []) = key ++ CatalogFormat.escapeEntity [] :=
    Piece.escapeEntity_append ordinary
  simpa [CatalogFormat.escapeEntity] using written

-----------------------------------------------------------------------------------------
-- Written entries
-----------------------------------------------------------------------------------------

/-- A written value holds no character that ends it, by induction on the value. -/
theorem not_mem_escapeEntity : '"' ∉ escapeEntity value ∧ '>' ∉ escapeEntity value := by
  induction value with
  | nil => simp [escapeEntity]
  | cons c rest ih =>
      rw [Piece.escapeEntity_cons]
      have here : ∀ written : List Char, '"' ∉ written → '>' ∉ written
          → '"' ∉ written ++ escapeEntity rest ∧ '>' ∉ written ++ escapeEntity rest := by
        intro written noQuote noBracket
        simp [noQuote, noBracket, ih]
      split_ifs with isAmp starts isLt isGt isQuot
      · exact here _ (by decide) (by decide)
      · exact here _ (by decide) (by decide)
      · exact here _ (by decide) (by decide)
      · exact here _ (by decide) (by decide)
      · exact here _ (by decide) (by decide)
      · exact here _ (by simp [Ne.symm isQuot]) (by simp [Ne.symm isGt])

theorem entryChars_dtd
    : entryChars .dtd key value
      = "<!ENTITY ".toList ++ escapeEntity key
        ++ ' ' :: '"' :: escapeEntity value ++ ['"', '>', '\n'] :=
  rfl

/-- A written entry declares its key with the written value. -/
theorem declares_entryChars (isKey : IsKey key)
    : Declares (entryChars .dtd key value) [⟨key, escapeEntity value⟩] := by
  have space : IsBlank [' '] := by
    intro c member
    rw [List.mem_singleton.mp member]
    decide
  have isWritten : Declaration.IsWritten ⟨key, escapeEntity value⟩
      ("<!ENTITY".toList ++ ([' '] ++ (key ++ ([' ']
        ++ ('"' :: escapeEntity value ++ '"' :: ([] ++ ['>'])))))) :=
    ⟨⟨isKey.nonempty, isKey.inside⟩, [' '], [' '], '"', [], by simp, space, by simp, space,
      .inl rfl, not_mem_escapeEntity.1, by simp [IsBlank], rfl⟩
  have newline : Declares ['\n'] [] := .blank (by decide) .nil
  have split : entryChars .dtd key value
      = "<!ENTITY".toList ++ ([' '] ++ (key ++ ([' ']
        ++ ('"' :: escapeEntity value ++ '"' :: ([] ++ ['>']))))) ++ ['\n'] := by
    rw [entryChars_dtd, isKey.escapeEntity]
    simp
  rw [split]
  exact .declaration isWritten newline

/-- A written entry closes no comment, since its only bracket that could stands behind a quote.
-/
theorem closesNoComment_entryChars (isKey : IsKey key) (unclosed : ClosesNoComment rest)
    : ClosesNoComment (entryChars .dtd key value ++ rest) := by
  have noBracket {text : List Char} (free : '>' ∉ text) : ClosesNoComment text :=
    cut_eq_none_iff.mpr fun inside => free (inside.subset (by decide))
  have keyFree : '>' ∉ "<!ENTITY ".toList ++ key ++ [' '] := by
    have notKey : '>' ∉ key := fun member => absurd (isKey.inside '>' member) (by decide)
    have notKeyword : '>' ∉ "<!ENTITY ".toList := by decide
    simp only [List.mem_append, notKeyword, notKey, List.mem_singleton, or_false, false_or]
    decide
  have ending : ClosesNoComment (['>'] ++ '\n' :: rest) :=
    cut_append_separator (by decide) (by decide) unclosed
  have valueEnd : ClosesNoComment (escapeEntity value ++ '"' :: (['>'] ++ '\n' :: rest)) :=
    cut_append_separator (by decide) (noBracket not_mem_escapeEntity.2) ending
  have split : entryChars .dtd key value ++ rest
      = ("<!ENTITY ".toList ++ key ++ [' '])
        ++ '"' :: (escapeEntity value ++ '"' :: (['>'] ++ '\n' :: rest)) := by
    rw [entryChars_dtd, isKey.escapeEntity]
    simp
  rw [split]
  exact cut_append_separator (by decide) (noBracket keyFree) valueEnd

end AddonPackager.Dtd
