import AddonPackager.Proofs.Catalog.Reading
import AddonPackager.Proofs.Fallible

/-! The grammar of DTD catalogs. A text is read exactly if it consists of declarations and blanks
once its comments are taken out, and the catalog has the last declaration of each name.
-/

namespace AddonPackager

open Text

namespace Dtd

variable {text rest stripped : List Char} {declaration : Declaration}
  {declarations : List Declaration}

-----------------------------------------------------------------------------------------
-- Comments
-----------------------------------------------------------------------------------------

/-- A text and what is left of it when its comments are taken out from left to right. A comment goes
as far as the first closing mark; an opening mark that is never closed stays.
-/
inductive Uncommented : List Char → List Char → Prop
  | nil : Uncommented [] []
  | comment {inside before after rest} (closed : IsCut "-->".toList inside before after)
    (below : Uncommented after rest)
    : Uncommented ("<!--".toList ++ inside) rest
  | keep {c text rest}
    (unclosed : ∀ inside, c :: text = "<!--".toList ++ inside → ¬ "-->".toList <:+: inside)
    (below : Uncommented text rest)
    : Uncommented (c :: text) (c :: rest)

/-- No comment stands where no opening mark is closed. -/
theorem afterComment?_eq_none_iff
    : afterComment? text = none
      ↔ ∀ inside, text = "<!--".toList ++ inside → ¬ "-->".toList <:+: inside := by
  rw [afterComment?, Option.bind_eq_none_iff]
  constructor
  · intro absent inside opened
    have none := absent inside (stripPrefix?_eq_some_iff.mpr opened)
    exact cut_eq_none_iff.mp (Option.map_eq_none_iff.mp none)
  · intro absent inside opened
    exact Option.map_eq_none_iff.mpr
      (cut_eq_none_iff.mpr (absent inside (stripPrefix?_eq_some_iff.mp opened)))

/-- Taking out comments leaves what is left of a text, by induction on its length. -/
theorem uncommented_removeComments : Uncommented text (removeComments text) := by
  induction length : text.length using Nat.strong_induction_on generalizing text with
  | _ n ih =>
      cases text with
      | nil =>
          rw [removeComments_nil]
          exact .nil
      | cons c rest =>
          cases found : afterComment? (c :: rest) with
          | some after =>
              obtain ⟨inside, before, opened, closed⟩ := afterComment?_eq_some_iff.mp found
              have shorter := length ▸ length_lt_of_afterComment? found
              rw [removeComments_of_comment found, stripPrefix?_eq_some_iff.mp opened]
              exact .comment (cut_eq_some_iff.mp closed) (ih _ shorter rfl)
          | none =>
              have shorter : rest.length < n := length ▸ Nat.lt_succ_self rest.length
              rw [removeComments_of_no_comment found]
              exact .keep (afterComment?_eq_none_iff.mp found) (ih _ shorter rfl)

/-- Only one text is left when comments are taken out, by induction on the text. -/
theorem Uncommented.eq_removeComments (uncommented : Uncommented text rest)
    : rest = removeComments text := by
  induction uncommented with
  | nil => exact removeComments_nil.symm
  | @comment inside before after rest closed _ ih =>
      have found : afterComment? ("<!--".toList ++ inside) = some after :=
        afterComment?_eq_some_iff.mpr
          ⟨inside, before, stripPrefix?_append_self, cut_eq_some_iff.mpr closed⟩
      rw [ih]
      exact (removeComments_of_comment found).symm
  | keep unclosed _ ih =>
      rw [ih, removeComments_of_no_comment (afterComment?_eq_none_iff.mpr unclosed)]

theorem uncommented_iff : Uncommented text rest ↔ rest = removeComments text := by
  constructor
  · exact Uncommented.eq_removeComments
  · rintro rfl
    exact uncommented_removeComments

-----------------------------------------------------------------------------------------
-- Repeated declarations
-----------------------------------------------------------------------------------------

/-- No later declaration has the same name. -/
def Declaration.IsLastOf (declaration : Declaration) (declarations : List Declaration) : Prop :=
  ∃ before after,
    declarations = before ++ declaration :: after
    ∧ ∀ other ∈ after, other.name ≠ declaration.name

/-- A collected entry is that of the last declaration of its name. -/
theorem exists_isLastOf_of_mem_collect {entry : String × String}
    (member : entry ∈ Catalog.collect (declarations.map Declaration.entry))
    : ∃ declaration : Declaration,
        declaration.IsLastOf declarations ∧ entry = declaration.entry := by
  have found := Assoc.get?_of_mem Catalog.nodup_names_collect member
  rw [Catalog.get?_collect, Assoc.get?_reverse_eq_some_iff] at found
  obtain ⟨front, back, split, last⟩ := found
  obtain ⟨before, others, rfl, -, beyond⟩ := List.map_eq_append_iff.mp split
  obtain ⟨declaration, after, rfl, here, rfl⟩ := List.map_eq_cons_iff.mp beyond
  refine ⟨declaration, ⟨before, after, rfl, ?_⟩, here.symm⟩
  intro other isLater sameName
  have sameKey : other.entry.1 = entry.1 := by
    rw [← congrArg Prod.fst here, Declaration.entry, Declaration.entry, sameName]
  exact last (List.mem_map.mpr ⟨other.entry, List.mem_map.mpr ⟨other, isLater, rfl⟩, sameKey⟩)

end Dtd

namespace Catalog

variable {text path : String}

-----------------------------------------------------------------------------------------
-- Accepted texts
-----------------------------------------------------------------------------------------

/-- Reading a DTD file takes the comments out and then scans for declarations. -/
theorem parse_dtd (named : Text.endsWith path ".dtd" = true)
    : parse text path = (read .dtd text path).map some := by
  have format : CatalogFormat.ofPath? path = some .dtd := by
    have notProperties : Text.endsWith path ".properties" = false := by
      rw [Bool.eq_false_iff, ne_eq, Text.endsWith, List.isSuffixOf_iff_suffix]
      intro ends
      have both := List.suffix_of_suffix_length_le (List.isSuffixOf_iff_suffix.mp named) ends
        (by decide)
      exact absurd both (by decide)
    rw [CatalogFormat.ofPath?, if_neg (by simp [notProperties]), if_pos named]
  rw [parse, format]

/-- A DTD file is read exactly if it consists of declarations and blanks once the comments are taken
out. Its catalog has the declared names in the order of their first declarations, each with the
message of its last one.
-/
theorem exists_parse_dtd_iff_declares (named : Text.endsWith path ".dtd" = true)
    : ∃ stripped,
        (∀ other, Dtd.Uncommented text.toList other ↔ other = stripped)
        ∧ ((∃ found, parse text path = .ok found)
            ↔ ∃ declarations, Dtd.Declares stripped declarations)
        ∧ ∀ declarations, Dtd.Declares stripped declarations →
            ∃ entries,
              parse text path = .ok (some ⟨.dtd, entries, text, []⟩)
              ∧ Assoc.names entries
                = (declarations.map fun declaration => declaration.entry.1).eraseDups
              ∧ ∀ entry ∈ entries, ∃ declaration : Dtd.Declaration,
                  declaration.IsLastOf declarations ∧ entry = declaration.entry := by
  have accepted : ∀ declarations, Dtd.Declares (Dtd.removeComments text.toList) declarations →
      parse text path
        = .ok (some ⟨.dtd, collect (declarations.map Dtd.Declaration.entry), text, []⟩) := by
    intro declarations declares
    have entries := Dtd.entries_eq_ok_iff.mpr ⟨declarations, declares, rfl⟩
    simp only [parse_dtd named, read, entries]
    rfl
  refine ⟨Dtd.removeComments text.toList, fun other => Dtd.uncommented_iff, ⟨?_, ?_⟩, ?_⟩
  · rintro ⟨found, parsed⟩
    rw [parse_dtd named] at parsed
    obtain ⟨catalog, readDone, -⟩ := exists_of_map_eq_ok parsed
    obtain ⟨known, entries, -⟩ := (isReadFrom_of_read readDone).2.entries
    rw [(isReadFrom_of_read readDone).1, CatalogFormat.entries?_dtd_eq_some_iff] at entries
    obtain ⟨declarations, declares, -⟩ := Dtd.entries_eq_ok_iff.mp entries
    exact ⟨declarations, declares⟩
  · rintro ⟨declarations, declares⟩
    exact ⟨_, accepted declarations declares⟩
  · intro declarations declares
    refine ⟨_, accepted declarations declares, ?_, ?_⟩
    · rw [names_collect, Assoc.names, List.map_map]
      rfl
    · intro entry member
      exact Dtd.exists_isLastOf_of_mem_collect member

/-- A text that declares a name again. The quote inside the comment opens no value. -/
def repeatedText : String :=
  "<!ENTITY a '1'><!-- ' -->\n<!ENTITY b \"&lt;\"><!ENTITY a '2'>"

/-- The repeated name keeps its place and takes the later message. -/
theorem exists_parse_dtd_iff_declares_repeated
    : Text.endsWith "x.dtd" ".dtd" = true
      ∧ ∃ entries,
          parse repeatedText "x.dtd" = .ok (some ⟨.dtd, entries, repeatedText, []⟩)
          ∧ Assoc.names entries = ["a", "b"]
          ∧ ∀ entry ∈ entries, entry = ("a", "2") ∨ entry = ("b", "<") := by
  have named : Text.endsWith "x.dtd" ".dtd" = true := by decide
  have declares : Dtd.Declares (Dtd.removeComments repeatedText.toList)
      [⟨['a'], ['1']⟩, ⟨['b'], "&lt;".toList⟩, ⟨['a'], ['2']⟩] :=
    Dtd.scan_eq_ok_iff.mp (by decide +kernel)
  obtain ⟨stripped, only, -, accepted⟩ := @exists_parse_dtd_iff_declares repeatedText _ named
  rw [(only _).mp Dtd.uncommented_removeComments] at declares
  obtain ⟨entries, parsed, names, last⟩ := accepted _ declares
  refine ⟨named, entries, parsed, names.trans (by decide), ?_⟩
  intro entry member
  obtain ⟨declaration, ⟨before, after, split, noLater⟩, rfl⟩ := last entry member
  cases before with
  | nil =>
      cases split
      exact absurd rfl (noLater ⟨['a'], ['2']⟩ (by simp))
  | cons first before =>
      cases before with
      | nil =>
          cases split
          exact .inr (by decide +kernel)
      | cons second before =>
          cases before with
          | nil =>
              cases split
              exact .inl (by decide +kernel)
          | cons third before => simp at split

end Catalog

end AddonPackager
