import AddonPackager.Proofs.Catalog.Reading

/-! Adding entries at the end of a catalog's text. The longer text is read into the old catalog
with the added entries behind it, so nothing that was there is lost, moved or changed.
-/

namespace AddonPackager

open Text

namespace CatalogFormat

variable {format : CatalogFormat} {known added : List (String × String)} {text more : List Char}
  {value : List Char}

/-- A value as it is read back once it has been written. -/
def reread : CatalogFormat → List Char → List Char
  | .properties, value => trim (escapeProperty value)
  | .dtd, value => Dtd.unescape (escapeEntity value)

/-- Values that are read back as they were written. -/
def KeepsValue : CatalogFormat → List Char → Prop
  | .properties, value => '\n' ∉ value ∧ trim value = value
  | .dtd, value => Dtd.IsFreeOfPredefined value

/-- Exactly these values are read back as they were written. -/
theorem reread_eq_self_iff : format.reread value = value ↔ format.KeepsValue value := by
  cases format with
  | properties =>
      constructor
      · intro same
        have free : '\n' ∉ value := by
          intro member
          rw [← same] at member
          exact Properties.not_mem_escapeProperty (mem_of_mem_trim member)
        rw [reread, Properties.escapeProperty_of_not_mem free] at same
        exact ⟨free, same⟩
      · rintro ⟨free, trimmed⟩
        rw [reread, Properties.escapeProperty_of_not_mem free, trimmed]
  | dtd => exact Dtd.unescape_escapeEntity_eq_self_iff

theorem keepsValue_of_isReadFrom {catalog : Catalog} {source key message : String}
    (isRead : catalog.IsReadFrom source) (found : catalog.get? key = some message)
    (isProperties : catalog.format = .properties)
    : KeepsValue .properties message.toList := by
  obtain ⟨known, read, listed⟩ := isRead.exists_entry found
  rw [isProperties] at read
  cases read
  exact (Properties.isKey_of_mem_entries listed).2

/-- An entry as it is read back once it has been written. -/
def rereadEntry (format : CatalogFormat) (entry : String × String) : String × String :=
  (entry.1, String.ofList (format.reread entry.2.toList))

def entriesChars (format : CatalogFormat) (entries : List (String × String)) : List Char :=
  entries.flatMap fun entry => format.entryChars entry.1.toList entry.2.toList

/-- The text of entries written one after the other. -/
theorem toList_join_entry
    : (String.join (added.map fun entry => format.entry entry.1 entry.2)).toList
      = format.entriesChars added := by
  rw [String.toList_join, List.flatMap_map, entriesChars]
  congr 1
  funext entry
  exact String.toList_ofList

/-- Written properties are read back in order, by induction on them. -/
theorem entries_entriesChars_properties
    (keys : ∀ entry ∈ added, IsKey .properties entry.1.toList)
    : Properties.entries (properties.entriesChars added) = added.map properties.rereadEntry := by
  induction added with
  | nil => simp [entriesChars]
  | cons entry rest ih =>
      have later := ih fun other member => keys other (List.mem_cons_of_mem _ member)
      rw [entriesChars] at later ⊢
      rw [List.flatMap_cons, Properties.entries_entryChars (keys entry (by simp)), later]
      simp [rereadEntry, reread]

/-- Written entities declare their keys in order and close no comment, by induction on them. -/
theorem declares_entriesChars_dtd (keys : ∀ entry ∈ added, IsKey .dtd entry.1.toList)
    : Dtd.Declares (dtd.entriesChars added)
          (added.map fun entry => ⟨entry.1.toList, escapeEntity entry.2.toList⟩)
      ∧ Dtd.ClosesNoComment (dtd.entriesChars added) := by
  induction added with
  | nil => exact ⟨.nil, rfl⟩
  | cons entry rest ih =>
      obtain ⟨declares, unclosed⟩ := ih fun other member =>
        keys other (List.mem_cons_of_mem _ member)
      have isKey := keys entry (by simp)
      exact ⟨(Dtd.declares_entryChars isKey).append declares,
        Dtd.closesNoComment_entryChars isKey unclosed⟩

/-- Written entries behind a text are read back behind its entries; a line feed may come first. -/
theorem entries?_append (read : format.entries? text = some known)
    (keys : ∀ entry ∈ added, format.IsKey entry.1.toList) (seam : StartsLine text more)
    (written : more = format.entriesChars added ∨ more = '\n' :: format.entriesChars added)
    : format.entries? (text ++ more) = some (known ++ added.map format.rereadEntry) := by
  cases format with
  | properties =>
      cases read
      have tail : Properties.entries more = added.map properties.rereadEntry := by
        rw [← entries_entriesChars_properties keys]
        rcases written with rfl | rfl
        · rfl
        · have start : Properties.entries ([] ++ '\n' :: properties.entriesChars added)
              = Properties.entries [] ++ Properties.entries (properties.entriesChars added) :=
            Properties.entries_append_newline
          simpa using start
      rw [entries?, Properties.entries_append seam, tail]
  | dtd =>
      obtain ⟨declares, unclosed⟩ := declares_entriesChars_dtd keys
      have entries : (added.map fun entry : String × String =>
          (⟨entry.1.toList, escapeEntity entry.2.toList⟩ : Dtd.Declaration)).map
            Dtd.Declaration.entry
          = added.map dtd.rereadEntry := by
        simp [Dtd.Declaration.entry, rereadEntry, reread, Function.comp_def]
      rw [entries?_dtd_eq_some_iff] at read ⊢
      rw [← entries]
      rcases written with rfl | rfl
      · exact Dtd.entries_append read declares seam unclosed
      · have newline := Dtd.Declares.blank (c := '\n') (by decide) declares
        have lineUnclosed : Dtd.ClosesNoComment ([] ++ '\n' :: dtd.entriesChars added) :=
          cut_append_separator (by decide) rfl unclosed
        exact Dtd.entries_append read newline seam lineUnclosed

end CatalogFormat

end AddonPackager
