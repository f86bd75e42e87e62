import AddonPackager.Proofs.Bundle.Import
import AddonPackager.Proofs.Catalog.Extension
import AddonPackager.Proofs.Fallible
import AddonPackager.Proofs.Unicode.Blank

/-! The messages that are left after importing bundles. The catalog that is stored under a path
holds the messages of the last option with a bundle file for this path, and of that one only.
-/

namespace AddonPackager

open Text CatalogFormat

-----------------------------------------------------------------------------------------
-- Keys that come back
-----------------------------------------------------------------------------------------

namespace Properties

variable {front value : List Char} {key : String} {pairs : List (String × String)}

/-- What follows the first equals sign does not decide whether a line is a comment. -/
theorem isComment_append_equals
    : isComment (front ++ '=' :: value) = isComment (front ++ ['=']) := by
  have kept : trimStart (front ++ ['=']) ≠ [] := by
    rw [ne_eq, trimStart_eq_nil_iff]
    intro blank
    exact absurd (blank '=' (by simp)) (by decide)
  obtain ⟨c, rest, first⟩ := List.exists_cons_of_ne_nil kept
  rw [isComment, isComment, List.append_cons, trimStart_append_of_ne_nil kept, first]
  rfl

/-- The key of a line does not depend on what follows its first equals sign. -/
theorem map_fst_entryOf
    : (entryOf (front ++ '=' :: value)).map Prod.fst = (entryOf (front ++ ['='])).map Prod.fst := by
  obtain ⟨⟨before, after⟩, found⟩ : ∃ parts, splitOnce '=' (front ++ ['=']) = some parts := by
    rw [← Option.isSome_iff_exists, Option.isSome_iff_ne_none, ne_eq, splitOnce_eq_none_iff]
    simp
  have longer : splitOnce '=' (front ++ '=' :: value) = some (before, after ++ value) := by
    rw [List.append_cons]
    exact splitOnce_append found
  rw [entryOf, entryOf, readLine, readLine, isComment_append_equals, found, longer]
  cases isComment (front ++ ['=']) <;> rfl

/-- The key that an entry written with some key is read back with. There is none if the key makes
its line a comment.
-/
def rereadKey? (key : String) : Option String :=
  (entryOf (escapeProperty key.toList ++ ['='])).map Prod.fst

theorem rereadKey?_of_isKey (isKey : IsKey key.toList) : rereadKey? key = some key := by
  have line : escapeProperty key.toList ++ ['='] = entryLine key.toList [] := by
    rw [escapeProperty_of_not_mem isKey.oneLine]
    rfl
  rw [rereadKey?, line, entryOf, readLine_entryLine isKey]
  simp

/-- Every written entry stands on a line of its own, by induction on the entries. -/
theorem entries_entriesChars
    : entries (properties.entriesChars pairs)
      = pairs.filterMap fun pair =>
          entryOf (escapeProperty pair.1.toList ++ '=' :: escapeProperty pair.2.toList) := by
  induction pairs with
  | nil => exact entries_nil
  | cons pair rest ih =>
      obtain ⟨key, message⟩ := pair
      have oneLine : '\n' ∉ escapeProperty key.toList ++ '=' :: escapeProperty message.toList := by
        rw [List.mem_append, List.mem_cons, not_or, not_or]
        exact ⟨not_mem_escapeProperty, by decide, not_mem_escapeProperty⟩
      rw [entriesChars] at ih ⊢
      rw [List.flatMap_cons, entryChars_properties, List.append_assoc, List.singleton_append,
        entries_append_newline, entries_of_line oneLine, ih, List.filterMap_cons]
      cases entryOf (escapeProperty key.toList ++ '=' :: escapeProperty message.toList) <;> rfl

/-- The keys of a written text are those that its entries come back with. -/
theorem mem_names_entries_entriesChars
    : key ∈ Assoc.names (entries (properties.entriesChars pairs))
      ↔ ∃ pair ∈ pairs, rereadKey? pair.1 = some key := by
  rw [entries_entriesChars, Assoc.names, List.map_filterMap, List.mem_filterMap]
  simp only [map_fst_entryOf, rereadKey?]

end Properties

namespace MessageBundle

variable {tree : FileTree} {metadata : Metadata} {locale target key : String}
  {locales : List String} {item : MetadataItem} {package changed : Package}
  {bundle : MessageBundle} {filter : KeyFilter}

def isPlainChar (c : Char) : Bool :=
  c.isAlphanum || c == '_'

/-- Keys of ASCII letters, digits and underscores. -/
def IsPlainKey (key : String) : Prop :=
  ∀ c ∈ key.toList, isPlainChar c = true

instance : Decidable (IsPlainKey key) :=
  decidable_of_iff (key.toList.all isPlainChar = true) List.all_eq_true

theorem isBlank_of_isPlainChar {c : Char} (plain : isPlainChar c = true)
    : Unicode.isBlank c = false :=
  Unicode.isBlank_eq_false_of_class (by decide +kernel) plain

theorem IsPlainKey.isKey (plain : IsPlainKey key) : Properties.IsKey key.toList where
  oneLine member := absurd (plain _ member) (by decide)
  noEquals member := absurd (plain _ member) (by decide)
  trimmed := trim_eq_self fun c member => isBlank_of_isPlainChar (plain c member)
  noComment c head := by
    have inside := plain c (List.mem_of_mem_head? head)
    constructor
    · rintro rfl
      exact absurd inside (by decide)
    · rintro rfl
      exact absurd inside (by decide)

/-- The catalog of a bundle can be read and has the keys that its messages come back with. -/
theorem exists_parse_toCatalog (bundle : MessageBundle) (filter : KeyFilter)
    (isProperties : CatalogFormat.ofPath? target = some .properties)
    : ∃ catalog,
        Catalog.parse (bundle.toCatalog filter target) target = .ok (some catalog)
        ∧ ∀ key,
            catalog.contains key = true
            ↔ ∃ brought ∈ bundle.messages.keys,
                filter.allows brought = true ∧ Properties.rereadKey? brought = some key := by
  have text : (bundle.toCatalog filter target).toList
      = properties.entriesChars (bundle.messages.toList.filter (filter.allows ·.1)) := by
    rw [toCatalog]
    simp only [entryFor, isProperties, Option.getD_some]
    exact toList_join_entry
  have entries : CatalogFormat.properties.entries? (bundle.toCatalog filter target).toList
      = some (Properties.entries (bundle.toCatalog filter target).toList) := rfl
  obtain ⟨catalog, parsed, -, collected⟩ := Catalog.exists_parse isProperties entries
  refine ⟨catalog, parsed, ?_⟩
  intro key
  rw [Catalog.contains_iff, Catalog.keys, collected, Catalog.mem_names_collect, text,
    Properties.mem_names_entries_entriesChars]
  constructor
  · rintro ⟨⟨brought, message⟩, member, comesBack⟩
    obtain ⟨listed, allowed⟩ := List.mem_filter.mp member
    exact ⟨brought, List.mem_map_of_mem listed, allowed, comesBack⟩
  · rintro ⟨brought, known, allowed, comesBack⟩
    obtain ⟨pair, listed, rfl⟩ := List.mem_map.mp known
    exact ⟨pair, List.mem_filter.mpr ⟨listed, allowed⟩, comesBack⟩

-----------------------------------------------------------------------------------------
-- Options that bring keys
-----------------------------------------------------------------------------------------

/-- An option brings a key to a locale if its bundle file has a message for the key and the option
takes it.
-/
def Brings (tree : FileTree) (locale : String) (item : MetadataItem) (key : String) : Prop :=
  ∃ bundle,
    readFile tree (sourcePath item locale) = .ok bundle
    ∧ key ∈ bundle.messages.keys
    ∧ (KeyFilter.parse item.value).allows key = true

theorem brings_iff (found : readFile tree (sourcePath item locale) = .ok bundle)
    : Brings tree locale item key
      ↔ key ∈ bundle.messages.keys ∧ (KeyFilter.parse item.value).allows key = true := by
  constructor
  · rintro ⟨other, readOther, listed, allowed⟩
    rw [found] at readOther
    cases readOther
    exact ⟨listed, allowed⟩
  · rintro ⟨listed, allowed⟩
    exact ⟨bundle, found, listed, allowed⟩

/-- Whether an option has a bundle file that becomes the catalog under a path. -/
def writes (tree : FileTree) (locale target : String) (item : MetadataItem) : Bool :=
  tree.isFile (sourcePath item locale) && targetPath (sourcePath item locale) locale == target

/-- The last option whose bundle file becomes the catalog under a path. -/
def lastItem? (tree : FileTree) (metadata : Metadata) (locale target : String)
    : Option MetadataItem :=
  (metadata.items sectionName).reverse.find? (writes tree locale target)

theorem writes_iff
    : writes tree locale target item = true
      ↔ tree.isFile (sourcePath item locale) = true
        ∧ targetPath (sourcePath item locale) locale = target := by
  rw [writes, Bool.and_eq_true, beq_iff_eq]

/-- An import that succeeds has read every bundle file. -/
theorem exists_readFile_of_importLocales
    (done : importLocales tree metadata locales package = .ok changed) (member : locale ∈ locales)
    (isItem : item ∈ metadata.items sectionName)
    (isFile : tree.isFile (sourcePath item locale) = true)
    : ∃ bundle, readFile tree (sourcePath item locale) = .ok bundle := by
  obtain ⟨before, after, localeDone⟩ := exists_step_of_foldlM done member
  obtain ⟨first, second, itemDone⟩ := exists_step_of_foldlM localeDone isItem
  simp only [importItem, if_pos isFile] at itemDone
  cases found : readFile tree (sourcePath item locale) with
  | ok bundle => exact ⟨bundle, rfl⟩
  | error cause =>
      rw [found] at itemDone
      cases itemDone

/-- The catalog imported under a path is that of the last option that writes it. -/
theorem get?_localeFiles (last : lastItem? tree metadata locale target = some item)
    (found : readFile tree (sourcePath item locale) = .ok bundle)
    : Assoc.get? target (localeFiles tree metadata locale).reverse
      = some (bundle.toCatalog (.parse item.value) target).toUTF8 := by
  obtain ⟨writesTarget, later, earlier, split, others⟩ := List.find?_eq_some_iff_append.mp last
  obtain ⟨isFile, rfl⟩ := writes_iff.mp writesTarget
  have own : itemFiles tree locale item
      = [(targetPath (sourcePath item locale) locale,
          (bundle.toCatalog (.parse item.value)
            (targetPath (sourcePath item locale) locale)).toUTF8)] := by
    simp only [itemFiles, if_pos isFile, found]
  have none : Assoc.get? (targetPath (sourcePath item locale) locale)
      (later.flatMap (List.reverse ∘ itemFiles tree locale)) = none := by
    rw [Assoc.get?_eq_none_iff]
    intro listed
    obtain ⟨entry, entryListed, here⟩ := List.mem_map.mp listed
    obtain ⟨other, isLater, ofOther⟩ := List.mem_flatMap.mp entryListed
    obtain ⟨otherIsFile, sameTarget⟩ := target_of_mem_itemFiles (List.mem_reverse.mp ofOther)
    have otherWrites := writes_iff.mpr ⟨otherIsFile, sameTarget.symm.trans here⟩
    simpa [otherWrites] using others other isLater
  rw [localeFiles, List.reverse_flatMap, split, List.flatMap_append, List.flatMap_cons,
    Assoc.get?_append, none, Option.none_or, Function.comp_apply, own, Assoc.get?_append,
    List.reverse_singleton, Assoc.get?_cons, if_pos rfl, Option.some_or]

/-- Without an option that writes a path, nothing is imported under it. -/
theorem get?_localeFiles_eq_none (unwritten : lastItem? tree metadata locale target = none)
    : Assoc.get? target (localeFiles tree metadata locale).reverse = none := by
  rw [Assoc.get?_eq_none_iff]
  intro listed
  obtain ⟨entry, member, here⟩ := List.mem_map.mp listed
  obtain ⟨item, isItem, isFile, sameTarget⟩ :=
    exists_item_of_mem_localeFiles (List.mem_reverse.mp member)
  refine List.find?_eq_none.mp unwritten item (List.mem_reverse.mpr isItem) ?_
  exact writes_iff.mpr ⟨isFile, sameTarget.symm.trans here⟩

-----------------------------------------------------------------------------------------
-- Catalogs after an import
-----------------------------------------------------------------------------------------

/-- The catalog that a package has under a path, if what is there can be read as one. -/
def catalogAt? (package : Package) (path : String) : Option Catalog :=
  (package.get? path).bind fun data =>
    (String.fromUTF8? data).bind fun text => (Catalog.parse text path).toOption.join

/-- Where the last option that leads to a path has a bundle file, its catalog is there after an
import.
-/
theorem catalogAt?_importLocales (expands : package.OnlyExpandsManifests)
    (named : ∀ locale ∈ locales, Locale.isName locale = true)
    (done : importLocales tree metadata locales package = .ok changed) (member : locale ∈ locales)
    (last : lastItem? tree metadata locale target = some item)
    : ∃ catalog,
        catalogAt? changed target = some catalog
        ∧ ∀ key,
            catalog.contains key = true
            ↔ ∃ brought,
                Brings tree locale item brought ∧ Properties.rereadKey? brought = some key := by
  obtain ⟨isFile, leads⟩ := writes_iff.mp (List.find?_some last)
  have isItem := List.mem_reverse.mp (List.mem_of_find?_eq_some last)
  obtain ⟨bundle, found⟩ := exists_readFile_of_importLocales done member isItem isFile
  have properties
      : CatalogFormat.ofPath? ((sourcePath item locale).fileStem ++ ".properties")
        = some .properties :=
    CatalogFormat.ofPath?_append_properties
  have isProperties : CatalogFormat.ofPath? target = some .properties := by
    rw [← leads, targetPath, Locale.ofPath?_path, properties]
  obtain ⟨catalog, parsed, keys⟩ :=
    exists_parse_toCatalog bundle (KeyFilter.parse item.value) isProperties
  have stored := get?_importLocales expands (FileKind.ofPath_path_ne properties) named member done
  rw [← targetPath, leads, get?_localeFiles last found, Option.some_or] at stored
  refine ⟨catalog, ?_, ?_⟩
  · rw [catalogAt?, stored, Option.bind_some, fromUTF8?_eq_some_iff.mpr rfl, Option.bind_some, parsed]
    rfl
  · intro key
    simp only [keys, brings_iff found, and_assoc]

/-- After an import there is a catalog where an option with a bundle file leads to. It has a plain
key if the last option that leads there brings the key, or another one that is read back as it, and
in no other case.
-/
theorem contains_catalogAt?_importLocales_iff (expands : package.OnlyExpandsManifests)
    (named : ∀ locale ∈ locales, Locale.isName locale = true)
    (done : importLocales tree metadata locales package = .ok changed) (member : locale ∈ locales)
    (isItem : item ∈ metadata.items sectionName)
    (isFile : tree.isFile (sourcePath item locale) = true) (plain : IsPlainKey key)
    : ∃ last catalog,
        lastItem? tree metadata locale (targetPath (sourcePath item locale) locale) = some last
        ∧ catalogAt? changed (targetPath (sourcePath item locale) locale) = some catalog
        ∧ (catalog.contains key = true
            ↔ Brings tree locale last key
              ∨ ∃ spelling,
                  ¬ IsPlainKey spelling
                  ∧ Brings tree locale last spelling
                  ∧ Properties.rereadKey? spelling = some key) := by
  have someLast : (lastItem? tree metadata locale
      (targetPath (sourcePath item locale) locale)).isSome = true :=
    List.find?_isSome.mpr ⟨item, List.mem_reverse.mpr isItem, writes_iff.mpr ⟨isFile, rfl⟩⟩
  obtain ⟨last, isLast⟩ := Option.isSome_iff_exists.mp someLast
  obtain ⟨catalog, here, keys⟩ := catalogAt?_importLocales expands named done member isLast
  refine ⟨last, catalog, isLast, here, (keys key).trans ?_⟩
  constructor
  · rintro ⟨brought, brings, comesBack⟩
    by_cases broughtPlain : IsPlainKey brought
    · rw [Properties.rereadKey?_of_isKey broughtPlain.isKey] at comesBack
      exact .inl (Option.some.inj comesBack ▸ brings)
    · exact .inr ⟨brought, broughtPlain, brings, comesBack⟩
  · rintro (brings | ⟨spelling, -, brings, comesBack⟩)
    · exact ⟨key, brings, Properties.rereadKey?_of_isKey plain.isKey⟩
    · exact ⟨spelling, brings, comesBack⟩

/-- A directory with a bundle of one message for a locale. -/
def bundleDirectory (text : String) : Entries :=
  Entries.set "de" (.directory (Entries.set "x.json" (.file text.toUTF8) [])) []

/-- Two directories with bundle files of one name. -/
def twinTree : FileTree where
  root :=
    Entries.set "first" (.directory (bundleDirectory "\x7b\"a\": [\"1\"]\x7d"))
      (Entries.set "second" (.directory (bundleDirectory "\x7b\"b\": [\"2\"]\x7d")) [])
  wellFormed :=
    have bundles (text : String) : (bundleDirectory text).WellFormed :=
      Entries.wellFormed_nil.set (by decide) (Entries.wellFormed_nil.set (by decide) (.file _))
    (Entries.wellFormed_nil.set (by decide) (bundles _)).set (by decide) (bundles _)

def twinItem (directory : String) : MetadataItem :=
  ⟨⟨"*", ⟨"metadata.gecko"⟩⟩, directory ++ "/*/x.json"⟩

/-- Options that take all messages of both files. -/
def twinMetadata : Metadata :=
  ⟨[(sectionName, ["first", "second"].map fun directory =>
    ((twinItem directory).key, (twinItem directory).toMetadataValue))]⟩

theorem brings_twinItem
    : Brings twinTree "de" (twinItem "first") "a" ∧ Brings twinTree "de" (twinItem "second") "b" := by
  have keys : ((readFile twinTree (sourcePath (twinItem "first") "de")).toOption.map
          (·.messages.keys)) = some ["a"]
      ∧ ((readFile twinTree (sourcePath (twinItem "second") "de")).toOption.map
          (·.messages.keys)) = some ["b"] := by
    decide +kernel
  obtain ⟨first, readFirst, firstKeys⟩ := exists_of_map_toOption keys.1
  obtain ⟨second, readSecond, secondKeys⟩ := exists_of_map_toOption keys.2
  refine ⟨⟨first, readFirst, ?_, by decide +kernel⟩, ⟨second, readSecond, ?_, by decide +kernel⟩⟩
  · simp [firstKeys]
  · simp [secondKeys]

theorem exists_importLocales_twin
    : ∃ changed,
        importLocales twinTree twinMetadata ["de"] (.empty ⟨[], []⟩) = .ok changed
        ∧ (catalogAt? changed "chrome/locale/de/x.properties").map (·.keys) = some ["b"] := by
  apply exists_of_map_toOption
  decide +kernel

theorem onlyExpandsManifests_empty : (Package.empty ⟨[], []⟩).OnlyExpandsManifests := by
  simp [Package.OnlyExpandsManifests, Package.empty]

/-- The message of the second bundle is there. -/
theorem contains_catalogAt?_importLocales_twin
    : ∃ changed catalog,
        importLocales twinTree twinMetadata ["de"] (.empty ⟨[], []⟩) = .ok changed
        ∧ catalogAt? changed "chrome/locale/de/x.properties" = some catalog
        ∧ catalog.contains "b" = true := by
  obtain ⟨changed, done, -⟩ := exists_importLocales_twin
  have target : targetPath (sourcePath (twinItem "second") "de") "de"
      = "chrome/locale/de/x.properties" := by
    decide +kernel
  have isLast : lastItem? twinTree twinMetadata "de" "chrome/locale/de/x.properties"
      = some (twinItem "second") := by
    decide +kernel
  have isItem : twinItem "second" ∈ twinMetadata.items sectionName := by
    decide +kernel
  have isFile : twinTree.isFile (sourcePath (twinItem "second") "de") = true := by
    decide +kernel
  have plain : IsPlainKey "b" := by
    decide +kernel
  obtain ⟨last, catalog, found, here, keys⟩ :=
    contains_catalogAt?_importLocales_iff onlyExpandsManifests_empty (by decide) done
      (List.mem_singleton.mpr rfl) isItem isFile plain
  rw [target] at found here
  rw [isLast] at found
  cases found
  exact ⟨changed, catalog, done, here, keys.mpr (.inl brings_twinItem.2)⟩

/-- The message of the first bundle is lost. -/
theorem exists_not_contains_of_importLocales
    : ∃ changed,
        (Package.empty ⟨[], []⟩).OnlyExpandsManifests
        ∧ Locale.isName "de" = true
        ∧ importLocales twinTree twinMetadata ["de"] (.empty ⟨[], []⟩) = .ok changed
        ∧ twinItem "first" ∈ twinMetadata.items sectionName
        ∧ twinTree.isFile (sourcePath (twinItem "first") "de") = true
        ∧ Brings twinTree "de" (twinItem "first") "a"
        ∧ IsPlainKey "a"
        ∧ ¬ ∃ catalog,
            catalogAt? changed (targetPath (sourcePath (twinItem "first") "de") "de") = some catalog
            ∧ catalog.contains "a" = true := by
  obtain ⟨changed, done, keys⟩ := exists_importLocales_twin
  refine ⟨changed, onlyExpandsManifests_empty, by decide, done, by decide +kernel, by decide +kernel,
    brings_twinItem.1, by decide +kernel, ?_⟩
  have target : targetPath (sourcePath (twinItem "first") "de") "de"
      = "chrome/locale/de/x.properties" := by
    decide +kernel
  rintro ⟨catalog, here, contains⟩
  rw [target] at here
  rw [here, Option.map_some, Option.some.injEq] at keys
  rw [Catalog.contains_iff, keys] at contains
  simp at contains

end MessageBundle

end AddonPackager
