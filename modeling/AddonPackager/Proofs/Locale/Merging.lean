import AddonPackager.Proofs.Locale.CatalogPaths
import AddonPackager.Proofs.Locale.Supplement

/-! Merging references into locales. What a file of a locale comes to depends on its reference and
on what was there before, and merging the reference once more changes nothing. Different locales
and files have different paths, so every merge is described path by path.
-/

namespace AddonPackager.Locale.References

variable {reference target : Catalog} {references : References} {package : Package}
  {locale file path other : String} {locales : List String} {old : Option ByteArray}
  {pairs : List (String × Catalog)}

/-- Every reference was read from a text under the name of its file. -/
def Parsed (references : References) : Prop :=
  ∀ file reference, references.catalogs.get? file = some reference →
    ∃ text, Catalog.parse text file = .ok (some reference)

-----------------------------------------------------------------------------------------
-- One file
-----------------------------------------------------------------------------------------

/-- What the bytes of a file come to when a reference is merged into them. A missing file is
copied from the reference; what is no catalog stays as it is.
-/
def filled (reference : Catalog) (path : String) : Option ByteArray → ByteArray
  | none => reference.raw.toUTF8
  | some data =>
      match String.fromUTF8? data with
      | none => data
      | some text =>
          match Catalog.parse text path with
          | .ok (some target) => (text ++ supplement reference target).toUTF8
          | _ => data

theorem filled_of_parse {data : ByteArray} {text : String}
    (isText : String.fromUTF8? data = some text)
    (parsed : Catalog.parse text path = .ok (some target))
    : filled reference path (some data) = (text ++ supplement reference target).toUTF8 := by
  simp only [filled, isText, parsed]

/-- The bytes of a file read as a catalog, which is supplemented, or they stay as they are. -/
theorem filled_cases (reference : Catalog) (path : String) (data : ByteArray)
    : (∃ text target,
        data = text.toUTF8
        ∧ Catalog.parse text path = .ok (some target)
        ∧ filled reference path (some data) = (text ++ supplement reference target).toUTF8)
      ∨ filled reference path (some data) = data
        ∧ ∀ text target, data = text.toUTF8 → Catalog.parse text path ≠ .ok (some target) := by
  cases isText : String.fromUTF8? data with
  | none =>
      refine .inr ⟨by simp only [filled, isText], ?_⟩
      intro text target bytes
      rw [fromUTF8?_eq_some_iff.mpr bytes] at isText
      cases isText
  | some text =>
      have bytes := fromUTF8?_eq_some_iff.mp isText
      have unread (noCatalog : ∀ target, Catalog.parse text path ≠ .ok (some target)) (other target)
          (same : data = other.toUTF8) : Catalog.parse other path ≠ .ok (some target) := by
        rw [bytes] at same
        exact String.toByteArray_inj.mp same ▸ noCatalog target
      cases parsed : Catalog.parse text path with
      | error fault =>
          refine .inr ⟨by simp only [filled, isText, parsed], unread ?_⟩
          simp [parsed]
      | ok found =>
          cases found with
          | none =>
              refine .inr ⟨by simp only [filled, isText, parsed], unread ?_⟩
              simp [parsed]
          | some target => exact .inl ⟨text, target, bytes, parsed, filled_of_parse isText parsed⟩

/-- A catalog without missing keys stays as it is. -/
theorem filled_of_complete {text : String} (parsed : Catalog.parse text path = .ok (some target))
    (complete : ∀ key ∈ reference.keys, key ∈ target.keys)
    : filled reference path (some text.toUTF8) = text.toUTF8 := by
  rw [filled_of_parse (fromUTF8?_eq_some_iff.mpr rfl) parsed,
    supplement_eq_empty (missing_eq_nil_iff.mpr complete), String.append_empty]

/-- A catalog of the file of a reference has the format of the reference. -/
theorem format_eq_of_parse {source text : String}
    (isReference : Catalog.parse source file = .ok (some reference))
    (parsed : Catalog.parse text (Locale.path locale file) = .ok (some target))
    : target.format = reference.format := by
  have named := Catalog.format_of_parse parsed
  rw [ofPath?_path, Catalog.format_of_parse isReference] at named
  exact (Option.some.inj named).symm

/-- A filled catalog reads as the old catalog with the missing entries at its end. -/
theorem parse_filled {source text : String}
    (isReference : Catalog.parse source file = .ok (some reference))
    (parsed : Catalog.parse text (Locale.path locale file) = .ok (some target))
    : ∃ merged,
        Catalog.parse (text ++ supplement reference target) (Locale.path locale file)
          = .ok (some merged)
        ∧ merged.format = target.format
        ∧ merged.entries = target.entries
            ++ (missing reference target).map target.format.rereadEntry := by
  have isRead := Catalog.isReadFrom_of_parse isReference
  refine parse_append_supplement parsed ?_ isRead.nodup_keys
  rw [format_eq_of_parse isReference parsed]
  intro key member
  exact isRead.isKey member

/-- A copied or filled catalog has every key of its reference, by cases on what was there before.
-/
theorem mem_keys_of_parse_filled {source text key : String}
    (isReference : Catalog.parse source file = .ok (some reference))
    (isText : String.fromUTF8? (filled reference (Locale.path locale file) old) = some text)
    (parsed : Catalog.parse text (Locale.path locale file) = .ok (some target))
    (member : key ∈ reference.keys)
    : key ∈ target.keys := by
  have bytes := fromUTF8?_eq_some_iff.mp isText
  cases old with
  | none =>
      have copied : text = source := by
        rw [← (Catalog.isReadFrom_of_parse isReference).raw]
        exact (String.toByteArray_inj.mp bytes).symm
      have same := parsed.symm.trans
        (copied ▸ Catalog.parse_congr ofPath?_path.symm isReference)
      cases same
      exact member
  | some data =>
      rcases filled_cases reference (Locale.path locale file) data with
        ⟨oldText, oldTarget, -, read, whole⟩ | ⟨stays, unread⟩
      · obtain ⟨merged, mergedParsed, -, entries⟩ := parse_filled isReference read
        rw [whole] at bytes
        rw [String.toByteArray_inj.mp bytes, parsed] at mergedParsed
        cases mergedParsed
        exact mem_keys_supplemented entries member
      · rw [stays] at bytes
        exact absurd parsed (unread text target bytes)

theorem filled_filled {source : String}
    (isReference : Catalog.parse source file = .ok (some reference))
    : filled reference (Locale.path locale file)
          (some (filled reference (Locale.path locale file) old))
      = filled reference (Locale.path locale file) old := by
  generalize once : filled reference (Locale.path locale file) old = data
  rcases filled_cases reference (Locale.path locale file) data with
    ⟨text, target, bytes, parsed, -⟩ | ⟨stays, -⟩
  · rw [bytes]
    refine filled_of_complete parsed ?_
    intro key member
    exact mem_keys_of_parse_filled isReference (once ▸ fromUTF8?_eq_some_iff.mpr bytes) parsed member
  · exact stays

-----------------------------------------------------------------------------------------
-- One locale
-----------------------------------------------------------------------------------------

/-- All that merging a reference can do: the filled bytes are stored, or they are there already
and at most a warning is added.
-/
theorem mergeFile_cases (locale file : String) (reference : Catalog) (package : Package)
    : mergeFile locale package (file, reference)
        = package.put (Locale.path locale file)
          (filled reference (Locale.path locale file)
            (package.get? (Locale.path locale file)))
      ∨ package.get? (Locale.path locale file)
          = some (filled reference (Locale.path locale file)
              (package.get? (Locale.path locale file)))
        ∧ ∃ warnings,
            mergeFile locale package (file, reference) = package.warnAll warnings := by
  rw [mergeFile]
  generalize Locale.path locale file = path
  cases stored : package.get? path with
  | none => exact .inl rfl
  | some data =>
      simp only [filled, mergeCatalog]
      cases isText : String.fromUTF8? data with
      | none => exact .inr ⟨rfl, [_], rfl⟩
      | some text =>
          have bytes : data = text.toUTF8 := fromUTF8?_eq_some_iff.mp isText
          simp only
          cases parsed : Catalog.parse text path with
          | error fault => exact .inr ⟨rfl, [_], rfl⟩
          | ok found =>
              cases found with
              | none => exact .inr ⟨rfl, [], rfl⟩
              | some target =>
                  simp only
                  split
                  · rename_i nothing
                    rw [nothing, String.append_empty, bytes]
                    exact .inr ⟨rfl, [], rfl⟩
                  · rw [Package.append, stored, Option.getD_some, bytes]
                    exact .inl rfl

@[simp] theorem transforms_mergeFile {entry : String × Catalog}
    : (mergeFile locale package entry).transforms = package.transforms := by
  rcases mergeFile_cases locale entry.1 entry.2 package with stored | ⟨-, warnings, warned⟩
  · exact stored ▸ rfl
  · exact warned ▸ Package.transforms_warnAll

theorem get?_mergeFile_of_ne {entry : String × Catalog}
    (different : Locale.path locale entry.1 ≠ other)
    : (mergeFile locale package entry).get? other = package.get? other := by
  rcases mergeFile_cases locale entry.1 entry.2 package with stored | ⟨-, warnings, warned⟩
  · exact stored ▸ Package.get?_put_of_ne different
  · exact warned ▸ Package.get?_warnAll

theorem get?_mergeFile {source : String} (expands : package.OnlyExpandsManifests)
    (isReference : Catalog.parse source file = .ok (some reference))
    : (mergeFile locale package (file, reference)).get? (Locale.path locale file)
      = some (filled reference (Locale.path locale file)
          (package.get? (Locale.path locale file))) := by
  have catalog : CatalogFormat.ofPath? (Locale.path locale file) = some reference.format := by
    rw [ofPath?_path, Catalog.format_of_parse isReference]
  rcases mergeFile_cases locale file reference package with stored | ⟨same, warnings, warned⟩
  · rw [stored, Package.get?_put, if_pos rfl, expands.transformed_catalog catalog]
  · rw [warned, Package.get?_warnAll, ← same]

/-- Merging references one after the other changes only the files of their names, by induction on
them.
-/
theorem get?_foldl_mergeFile_of_ne
    (different : ∀ name ∈ Assoc.names pairs, Locale.path locale name ≠ other)
    : (pairs.foldl (mergeFile locale) package).get? other = package.get? other := by
  induction pairs generalizing package with
  | nil => rfl
  | cons entry rest ih =>
      have later : ∀ name ∈ Assoc.names rest, Locale.path locale name ≠ other :=
        fun name member => different name (List.mem_cons_of_mem _ member)
      rw [List.foldl_cons, ih later]
      exact get?_mergeFile_of_ne (different entry.1 List.mem_cons_self)

/-- Merging references with different names one after the other fills the file of each, by
induction on them: once its turn is over, a file is not touched again.
-/
theorem get?_foldl_mergeFile {source : String} (expands : package.OnlyExpandsManifests)
    (distinct : (Assoc.names pairs).Nodup) (listed : Assoc.get? file pairs = some reference)
    (isReference : Catalog.parse source file = .ok (some reference))
    : (pairs.foldl (mergeFile locale) package).get? (Locale.path locale file)
      = some (filled reference (Locale.path locale file)
          (package.get? (Locale.path locale file))) := by
  induction pairs generalizing package with
  | nil => simp at listed
  | cons entry rest ih =>
      obtain ⟨name, catalog⟩ := entry
      rw [Assoc.names_cons, List.nodup_cons] at distinct
      rw [List.foldl_cons]
      rw [Assoc.get?_cons] at listed
      split at listed
      · rename_i here
        subst here
        cases listed
        have untouched : ∀ other ∈ Assoc.names rest,
            Locale.path locale other ≠ Locale.path locale name := by
          intro other member same
          exact distinct.1 (path_inj.mp same ▸ member)
        rw [get?_foldl_mergeFile_of_ne untouched, get?_mergeFile expands isReference]
      · rename_i elsewhere
        have first : Locale.path locale name ≠ Locale.path locale file :=
          fun same => elsewhere (path_inj.mp same)
        rw [ih (expands.congr transforms_mergeFile) distinct.2 listed,
          get?_mergeFile_of_ne first]

@[simp] theorem transforms_mergeLocale
    : (references.mergeLocale package locale).transforms = package.transforms := by
  rw [mergeLocale]
  generalize references.catalogs.toList = pairs
  induction pairs generalizing package with
  | nil => rfl
  | cons entry rest ih => exact ih.trans transforms_mergeFile

theorem get?_mergeLocale_of_ne
    (different : ∀ file reference, references.catalogs.get? file = some reference →
      Locale.path locale file ≠ other)
    : (references.mergeLocale package locale).get? other = package.get? other := by
  refine get?_foldl_mergeFile_of_ne ?_
  intro file member
  obtain ⟨reference, found⟩ := Option.isSome_iff_exists.mp (Assoc.isSome_get?_iff.mpr member)
  exact different file reference found

theorem get?_mergeLocale (expands : package.OnlyExpandsManifests) (parsed : references.Parsed)
    (listed : references.catalogs.get? file = some reference)
    : (references.mergeLocale package locale).get? (Locale.path locale file)
      = some (filled reference (Locale.path locale file)
          (package.get? (Locale.path locale file))) := by
  obtain ⟨source, isReference⟩ := parsed file reference listed
  exact get?_foldl_mergeFile expands references.catalogs.ascending.nodup_names listed isReference

-----------------------------------------------------------------------------------------
-- All locales
-----------------------------------------------------------------------------------------

/-- Merging into locales changes their files with references only, by induction on the locales. -/
theorem get?_mergeInto_of_ne
    (different : ∀ locale ∈ locales, ∀ file reference,
      references.catalogs.get? file = some reference → Locale.path locale file ≠ other)
    : (references.mergeInto locales package).get? other = package.get? other := by
  induction locales generalizing package with
  | nil => rfl
  | cons locale rest ih =>
      rw [mergeInto, List.foldl_cons, ← mergeInto, ih fun next member =>
        different next (List.mem_cons_of_mem _ member)]
      exact get?_mergeLocale_of_ne (different locale List.mem_cons_self)

/-- Merging into locales fills their files with references, by induction on the locales. A locale
that comes again finds its files filled already.
-/
theorem get?_mergeInto (expands : package.OnlyExpandsManifests) (parsed : references.Parsed)
    (named : ∀ locale ∈ locales, isName locale = true) (member : locale ∈ locales)
    (listed : references.catalogs.get? file = some reference)
    : (references.mergeInto locales package).get? (Locale.path locale file)
      = some (filled reference (Locale.path locale file)
          (package.get? (Locale.path locale file))) := by
  obtain ⟨source, isReference⟩ := parsed file reference listed
  have isLocale := named locale member
  induction locales generalizing package with
  | nil => simp at member
  | cons first rest ih =>
      have restNamed : ∀ next ∈ rest, isName next = true :=
        fun next nextMember => named next (List.mem_cons_of_mem _ nextMember)
      have firstExpands : (references.mergeLocale package first).OnlyExpandsManifests :=
        expands.congr transforms_mergeLocale
      rw [mergeInto, List.foldl_cons, ← mergeInto]
      by_cases here : first = locale
      · subst here
        by_cases again : first ∈ rest
        · rw [ih firstExpands restNamed again, get?_mergeLocale expands parsed listed,
            filled_filled isReference]
        · rw [get?_mergeInto_of_ne, get?_mergeLocale expands parsed listed]
          intro next nextMember other catalog _ same
          have same := (path_eq_iff (restNamed next nextMember) isLocale).mp same
          exact again (same.1 ▸ nextMember)
      · have later : locale ∈ rest := by
          rcases List.mem_cons.mp member with same | later
          · exact absurd same.symm here
          · exact later
        rw [ih firstExpands restNamed later, get?_mergeLocale_of_ne]
        intro other catalog _ same
        exact here ((path_eq_iff (named first List.mem_cons_self) isLocale).mp same).1

/-- Merging into the same locales in another order or more often stores the same files. -/
theorem entries_mergeInto_congr {locales' : List String} (expands : package.OnlyExpandsManifests)
    (parsed : references.Parsed) (named : ∀ locale ∈ locales, isName locale = true)
    (same : ∀ locale, locale ∈ locales ↔ locale ∈ locales')
    : (references.mergeInto locales package).entries
      = (references.mergeInto locales' package).entries := by
  apply Dict.ext_get?
  intro other
  have named' : ∀ locale ∈ locales', isName locale = true :=
    fun locale member => named locale ((same locale).mpr member)
  by_cases merged : ∃ locale ∈ locales, ∃ file reference,
      references.catalogs.get? file = some reference ∧ Locale.path locale file = other
  · obtain ⟨locale, member, file, reference, listed, rfl⟩ := merged
    exact (get?_mergeInto expands parsed named member listed).trans
      (get?_mergeInto expands parsed named' ((same locale).mp member) listed).symm
  · have untouched : ∀ locale ∈ locales, ∀ file reference,
        references.catalogs.get? file = some reference → Locale.path locale file ≠ other :=
      fun locale member file reference listed here =>
        merged ⟨locale, member, file, reference, listed, here⟩
    have untouched' : ∀ locale ∈ locales', ∀ file reference,
        references.catalogs.get? file = some reference → Locale.path locale file ≠ other :=
      fun locale member => untouched locale ((same locale).mpr member)
    exact (get?_mergeInto_of_ne untouched).trans (get?_mergeInto_of_ne untouched').symm

end AddonPackager.Locale.References
