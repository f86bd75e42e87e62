import AddonPackager.Proofs.Locale.Merging

/-! Collecting references. Exactly the files of the default locale that read as catalogs become
references, each with the catalog that it reads as, and each file is reported about on its own.
-/

namespace AddonPackager.Locale.References

variable {locale file path : String} {files : List (String × ByteArray)} {data : ByteArray}
  {reference : Catalog} {tree : FileTree} {params : BuildParams} {package changed : Package}
  {references : References}

-----------------------------------------------------------------------------------------
-- One file
-----------------------------------------------------------------------------------------

/-- Inspecting a file gives the catalog that it reads as. -/
theorem inspect_eq_some_iff
    : (inspect path data).1 = some reference
      ↔ ∃ text,
          String.fromUTF8? data = some text ∧ Catalog.parse text path = .ok (some reference) := by
  rw [inspect]
  split
  · rename_i isText
    simp [isText]
  · rename_i text isText
    split <;> rename_i read <;> simp [isText, read]

/-- What is reported about a file: nothing if it is no catalog, one warning if it is a catalog that
cannot be read, and otherwise one warning for every line that is not understood.
-/
inductive Reports (path : String) (data : ByteArray) : List Warning → Prop
  | noCatalog (unknown : CatalogFormat.ofPath? path = none) : Reports path data []
  | notText {format : CatalogFormat} (known : CatalogFormat.ofPath? path = some format)
      (noText : String.fromUTF8? data = none)
      : Reports path data [.catalogNotText path]
  | malformed {text : String} {error : MalformedCatalog}
      (isText : String.fromUTF8? data = some text)
      (fails : Catalog.parse text path = .error error)
      : Reports path data [.malformed path error.message]
  | read {text : String} {catalog : Catalog} (isText : String.fromUTF8? data = some text)
      (parsed : Catalog.parse text path = .ok (some catalog))
      : Reports path data (catalog.unrecognized.map (.unrecognizedLine path))

theorem reports_inspect : Reports path data (inspect path data).2 := by
  rw [inspect]
  cases isText : String.fromUTF8? data with
  | none =>
      cases known : CatalogFormat.ofPath? path with
      | none => exact .noCatalog known
      | some format => exact .notText known isText
  | some text =>
      simp only
      cases parsed : Catalog.parse text path with
      | error error => exact .malformed isText parsed
      | ok found =>
          cases found with
          | some catalog => exact .read isText parsed
          | none =>
              refine .noCatalog ?_
              cases known : CatalogFormat.ofPath? path with
              | none => rfl
              | some format =>
                  simp only [Catalog.parse, known] at parsed
                  obtain ⟨catalog, -, same⟩ := exists_of_map_eq_ok parsed
                  cases same

/-- What is reported about a file is no conflict. -/
theorem Reports.kind_ne_conflict {report : List Warning} (reports : Reports path data report)
    : ∀ warning ∈ report, warning.kind ≠ .conflict := by
  cases reports with
  | noCatalog unknown => simp
  | notText known noText => simp [Warning.catalogNotText, Warning.malformed]
  | malformed isText fails => simp [Warning.malformed]
  | read isText parsed => simp [Warning.unrecognizedLine]

-----------------------------------------------------------------------------------------
-- Files of a locale
-----------------------------------------------------------------------------------------

theorem toList_path_empty_append
    : (Locale.path locale "").toList ++ file.toList = (Locale.path locale file).toList := by
  rw [toList_path, toList_path]
  simp

theorem path_of_stripPrefix? {inside : List Char}
    (found : Text.stripPrefix? (Locale.path locale "").toList path.toList = some inside)
    : Locale.path locale (String.ofList inside) = path := by
  rw [← String.toList_inj, ← toList_path_empty_append, String.toList_ofList]
  exact (Text.stripPrefix?_eq_some_iff.mp found).symm

/-- Files below the directory of a locale are those with a path in it. -/
theorem mem_filesBelow_iff
    : (file, data) ∈ filesBelow (Locale.path locale "") files
      ↔ (Locale.path locale file, data) ∈ files := by
  rw [filesBelow, List.mem_filterMap]
  constructor
  · rintro ⟨⟨here, content⟩, listed, stripped⟩
    obtain ⟨rest, found, same⟩ := Option.map_eq_some_iff.mp stripped
    cases same
    exact path_of_stripPrefix? found ▸ listed
  · intro listed
    refine ⟨_, listed, Option.map_eq_some_iff.mpr ⟨file.toList, ?_, by simp⟩⟩
    exact Text.stripPrefix?_eq_some_iff.mpr toList_path_empty_append.symm

/-- Files below the directory of a locale keep their order, by induction on the files. -/
theorem map_filesBelow_sublist
    : ((filesBelow (Locale.path locale "") files).map fun entry =>
        (Locale.path locale entry.1, entry.2)).Sublist files := by
  induction files with
  | nil => exact .slnil
  | cons entry rest ih =>
      obtain ⟨path, data⟩ := entry
      rw [filesBelow, List.filterMap_cons]
      cases found : Text.stripPrefix? (Locale.path locale "").toList path.toList with
      | none =>
          simp only [found, Option.map_none]
          exact ih.cons _
      | some inside =>
          simp only [found, Option.map_some, List.map_cons, path_of_stripPrefix? found]
          exact ih.cons_cons _

/-- The catalogs among files inside a locale. -/
def catalogsIn (locale : String) (files : List (String × ByteArray)) : List (String × Catalog) :=
  files.filterMap fun entry => (inspect (Locale.path locale entry.1) entry.2).1.map ((entry.1, ·))

/-- The warnings about files of a locale are those about each. -/
theorem warnings_ofFiles
    : (ofFiles locale files).2
      = (filesBelow (Locale.path locale "") files).flatMap fun entry =>
          (inspect (Locale.path locale entry.1) entry.2).2 := by
  rw [ofFiles]
  simp only [List.flatMap_map]

theorem catalogs_ofFiles
    : (ofFiles locale files).1.catalogs
      = .ofList (catalogsIn locale (filesBelow (Locale.path locale "") files)) := by
  rw [catalogsIn, ofFiles]
  simp only [List.filterMap_map]
  rfl

/-- The catalogs inside a locale of a package are what its files read as. -/
theorem mem_catalogsIn_iff
    : (file, reference) ∈ catalogsIn locale (filesBelow (Locale.path locale "") package.files)
      ↔ ∃ data, package.get? (Locale.path locale file) = some data
        ∧ (inspect (Locale.path locale file) data).1 = some reference := by
  rw [catalogsIn, List.mem_filterMap]
  constructor
  · rintro ⟨⟨name, data⟩, member, found⟩
    obtain ⟨catalog, read, same⟩ := Option.map_eq_some_iff.mp found
    cases same
    exact ⟨data, Dict.mem_toList_iff.mp (mem_filesBelow_iff.mp member), read⟩
  · rintro ⟨data, stored, read⟩
    exact ⟨(file, data), mem_filesBelow_iff.mpr (Dict.mem_toList_iff.mpr stored),
      Option.map_eq_some_iff.mpr ⟨reference, read, rfl⟩⟩

/-- The references among the files of a package are the catalogs of the locale. -/
theorem get?_ofFiles_iff
    : (ofFiles locale package.files).1.catalogs.get? file = some reference
      ↔ ∃ data text,
          package.get? (Locale.path locale file) = some data
          ∧ String.fromUTF8? data = some text
          ∧ Catalog.parse text (Locale.path locale file) = .ok (some reference) := by
  rw [catalogs_ofFiles, Dict.get?_ofList, Assoc.get?_eq_some_iff_mem, List.mem_reverse,
    mem_catalogsIn_iff]
  · simp only [inspect_eq_some_iff, exists_and_left]
  · intro first second firstMember secondMember
    obtain ⟨data, stored, read⟩ := mem_catalogsIn_iff.mp (List.mem_reverse.mp firstMember)
    obtain ⟨data', stored', read'⟩ := mem_catalogsIn_iff.mp (List.mem_reverse.mp secondMember)
    rw [stored] at stored'
    cases stored'
    exact Option.some.inj (read.symm.trans read')

/-- Collected references were read under the names of their files. -/
theorem parsed_ofFiles : (ofFiles locale package.files).1.Parsed := by
  intro file reference listed
  obtain ⟨data, text, -, -, read⟩ := get?_ofFiles_iff.mp listed
  exact ⟨text, Catalog.parse_congr ofPath?_path read⟩

/-- Merging the references of a locale leaves the files of that locale as they are, since their
catalogs miss none of their own keys.
-/
theorem get?_mergeInto_ofFiles {alone : Package} {locales : List String}
    (expands : package.OnlyExpandsManifests) (named : ∀ next ∈ locales, isName next = true)
    (member : locale ∈ locales)
    (agree : package.get? (Locale.path locale file) = alone.get? (Locale.path locale file))
    : ((ofFiles locale alone.files).1.mergeInto locales package).get? (Locale.path locale file)
      = package.get? (Locale.path locale file) := by
  cases listed : (ofFiles locale alone.files).1.catalogs.get? file with
  | none =>
      refine get?_mergeInto_of_ne ?_
      intro next nextMember other reference found here
      obtain ⟨-, rfl⟩ := (path_eq_iff (named next nextMember) (named locale member)).mp here
      rw [listed] at found
      cases found
  | some reference =>
      obtain ⟨data, text, found, isText, read⟩ := get?_ofFiles_iff.mp listed
      rw [get?_mergeInto expands parsed_ofFiles named member listed, agree, found,
        fromUTF8?_eq_some_iff.mp isText, filled_of_complete read fun _ own => own]

-----------------------------------------------------------------------------------------
-- Collecting
-----------------------------------------------------------------------------------------

theorem collect_of_scratch {alone : Package}
    (done : scratch tree params package.filter = .ok alone)
    : collect tree params package
      = .ok ((ofFiles params.config.defaultLocale alone.files).1,
          (package.warnAll alone.warnings).warnAll
            (ofFiles params.config.defaultLocale alone.files).2) := by
  unfold collect
  rw [done]

/-- Collecting takes the references from a package with the default locale alone, and adds at
most warnings to the package.
-/
theorem exists_scratch_of_collect
    (done : collect tree params package = .ok (references, changed))
    : ∃ alone warnings,
        scratch tree params package.filter = .ok alone
        ∧ references = (ofFiles params.config.defaultLocale alone.files).1
        ∧ changed = package.warnAll warnings := by
  cases found : scratch tree params package.filter with
  | error failure =>
      unfold collect at done
      rw [found] at done
      cases done
  | ok alone =>
      rw [collect_of_scratch found, Except.ok.injEq, Prod.mk.injEq] at done
      obtain ⟨rfl, rfl⟩ := done
      refine ⟨alone, alone.warnings ++ (ofFiles params.config.defaultLocale alone.files).2, rfl, rfl,
        ?_⟩
      simp only [Package.warnAll, List.foldl_append]

end AddonPackager.Locale.References
