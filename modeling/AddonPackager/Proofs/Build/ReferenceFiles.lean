import AddonPackager.Proofs.Build.Keeping
import AddonPackager.Proofs.Bundle.Messages
import AddonPackager.Proofs.Package.FlatWalk

/-! What collecting references comes to. Every file of the default locale, on the disk or imported,
is inspected on its own: it becomes a reference if it reads as a catalog, and what is wrong with it
is reported. The package that is being built only lends its filter.
-/

namespace AddonPackager.Locale.References

variable {tree : FileTree} {params : BuildParams} {filter : PathFilter} {references : References}
  {package changed alone : Package} {locale file : String} {data : ByteArray}

-----------------------------------------------------------------------------------------
-- Sources
-----------------------------------------------------------------------------------------

/-- The bytes that a file of the default locale starts from: the last bundle that is imported under
its path, or without one the admitted file on the disk.
-/
inductive IsSource (tree : FileTree) (params : BuildParams) (filter : PathFilter) (file : String)
    : ByteArray → Prop
  | imported {item : MetadataItem} {bundle : MessageBundle}
      (last
        : MessageBundle.lastItem? tree params.metadata params.config.defaultLocale
            (Locale.path params.config.defaultLocale file)
          = some item)
      (found
        : MessageBundle.readFile tree
            (MessageBundle.sourcePath item params.config.defaultLocale)
          = .ok bundle)
      : IsSource tree params filter file
          (bundle.toCatalog (.parse item.value)
            (Locale.path params.config.defaultLocale file)).toUTF8
  | onDisk {entries : Entries} {data : ByteArray}
      (unimported
        : MessageBundle.lastItem? tree params.metadata params.config.defaultLocale
            (Locale.path params.config.defaultLocale file)
          = none)
      (listed
        : tree.list? (params.config.localeDirectory params.config.defaultLocale)
          = some entries)
      (found : entries.at? (PathFilter.segments file) = some (.file data))
      (admits : filter.admits (Locale.path params.config.defaultLocale file) = true)
      : IsSource tree params filter file data

theorem path_eq_localePart (config : BuildConfig)
    : Locale.path locale file
      = Build.chromeName ++ "/" ++ (Build.localePart config locale).1 ++ "/" ++ file := by
  have root : Locale.rootPath = Build.chromeName ++ "/" ++ "locale" := by decide
  have part : (Build.localePart config locale).1 = "locale" ++ "/" ++ locale := by
    rw [Build.localePart, ← String.toList_inj]
    simp
  rw [Locale.path, root, part]
  simp only [String.append_assoc]

/-- The directory of the default locale offers its admitted files. -/
theorem get?_defaultFiles_iff (isName : Locale.isName params.config.defaultLocale = true)
    : Assoc.get? (Locale.path params.config.defaultLocale file)
          (Build.defaultFiles tree params filter)
        = some data
      ↔ ∃ entries,
          tree.list? (params.config.localeDirectory params.config.defaultLocale) = some entries
          ∧ entries.at? (PathFilter.segments file) = some (.file data)
          ∧ filter.admits (Locale.path params.config.defaultLocale file) = true := by
  have mem : Assoc.get? (Locale.path params.config.defaultLocale file)
        (Build.defaultFiles tree params filter) = some data
      ↔ (Locale.path params.config.defaultLocale file, data)
          ∈ Build.defaultFiles tree params filter :=
    ⟨Assoc.mem_of_get?, Assoc.get?_of_mem nodup_names_defaultFiles⟩
  rw [mem, Build.defaultFiles_eq_partFiles isName, Build.partFiles]
  cases listed : tree.list? (params.config.localeDirectory params.config.defaultLocale) with
  | none => simp [FileTree.isDirectory, Build.localePart, listed]
  | some entries =>
      have part : tree.list? (Build.localePart params.config params.config.defaultLocale).2
          = some entries := listed
      have isDirectory : tree.isDirectory
          (Build.localePart params.config params.config.defaultLocale).2 = true := by
        rw [FileTree.isDirectory, part, Option.isSome_some]
      have nonempty : Build.chromeName ++ "/"
          ++ (Build.localePart params.config params.config.defaultLocale).1 ≠ "" := by
        intro empty
        have chars := congrArg String.toList empty
        simp [Build.chromeName] at chars
      rw [if_pos isDirectory, PathFilter.sourceFiles_eq_flatFiles part,
        path_eq_localePart params.config,
        PathFilter.mem_flatFiles_below_iff (FileTree.wellFormed_of_list? listed) nonempty]
      simp

/-- The package with the default locale alone has the sources as its files. -/
theorem get?_scratch_iff (isName : Locale.isName params.config.defaultLocale = true)
    (done : scratch tree params filter = .ok alone)
    : alone.get? (Locale.path params.config.defaultLocale file) = some data
      ↔ IsSource tree params filter file data := by
  rw [Build.get?_scratch done]
  cases last : MessageBundle.lastItem? tree params.metadata params.config.defaultLocale
      (Locale.path params.config.defaultLocale file) with
  | none =>
      rw [MessageBundle.get?_localeFiles_eq_none last, Option.none_or,
        get?_defaultFiles_iff isName]
      constructor
      · rintro ⟨entries, listed, found, admits⟩
        exact .onDisk last listed found admits
      · intro source
        cases source with
        | imported isLast found =>
            rw [last] at isLast
            cases isLast
        | onDisk unimported listed found admits => exact ⟨_, listed, found, admits⟩
  | some item =>
      obtain ⟨isFile, -⟩ := MessageBundle.writes_iff.mp (List.find?_some last)
      have isItem := List.mem_reverse.mp (List.mem_of_find?_eq_some last)
      obtain ⟨bundle, found⟩ := MessageBundle.exists_readFile_of_importLocales
        (Build.importLocales_of_scratch done) List.mem_cons_self isItem isFile
      rw [MessageBundle.get?_localeFiles last found, Option.some_or, Option.some.injEq]
      constructor
      · rintro rfl
        exact .imported last found
      · intro source
        cases source with
        | imported isLast isFound =>
            cases last.symm.trans isLast
            cases found.symm.trans isFound
            rfl
        | onDisk unimported listed found admits =>
            rw [last] at unimported
            cases unimported

-----------------------------------------------------------------------------------------
-- Collecting
-----------------------------------------------------------------------------------------

/-- References and warnings that the sources of the default locale give. The references are the
catalogs among the sources, and the warnings are what is reported about each of them in the order of
their paths.
-/
structure IsCollected (tree : FileTree) (params : BuildParams) (filter : PathFilter)
    (references : References) (warnings : List Warning) : Prop where
  catalogs
    : ∀ file reference,
        references.catalogs.get? file = some reference
        ↔ ∃ data text,
            IsSource tree params filter file data
            ∧ String.fromUTF8? data = some text
            ∧ Catalog.parse text (Locale.path params.config.defaultLocale file)
                = .ok (some reference)
  warnings
    : ∃ sources reports,
        Assoc.Ascending (sources.map fun source : String × ByteArray =>
          (Locale.path params.config.defaultLocale source.1, source.2))
        ∧ (∀ file data, (file, data) ∈ sources ↔ IsSource tree params filter file data)
        ∧ List.Forall₂
            (fun source => Reports (Locale.path params.config.defaultLocale source.1) source.2)
            sources reports
        ∧ warnings = reports.flatten

theorem isCollected_ofFiles (isName : Locale.isName params.config.defaultLocale = true)
    (done : scratch tree params filter = .ok alone)
    : IsCollected tree params filter (ofFiles params.config.defaultLocale alone.files).1
        (ofFiles params.config.defaultLocale alone.files).2 where
  catalogs file reference := by
    simp only [get?_ofFiles_iff, get?_scratch_iff isName done]
  warnings := by
    refine ⟨filesBelow (Locale.path params.config.defaultLocale "") alone.files,
      (filesBelow (Locale.path params.config.defaultLocale "") alone.files).map fun source =>
        (inspect (Locale.path params.config.defaultLocale source.1) source.2).2,
      ?_, ?_, ?_, ?_⟩
    · exact alone.entries.ascending.sublist map_filesBelow_sublist
    · intro file data
      rw [mem_filesBelow_iff, ← get?_scratch_iff isName done]
      exact Dict.mem_toList_iff
    · rw [List.forall₂_map_right_iff, List.forall₂_same]
      intro source _
      exact reports_inspect
    · rw [warnings_ofFiles, List.flatMap]

/-- Collecting is exact and independent of the package. The package receives warnings only; the
references and the warnings are those of the sources of the default locale, and every package with
the same filter receives them.
-/
theorem exists_isCollected_of_collect
    (isName : Locale.isName params.config.defaultLocale = true)
    (done : collect tree params package = .ok (references, changed))
    : ∃ added,
        changed = { package with warnings := package.warnings ++ added }
        ∧ IsCollected tree params package.filter references added
        ∧ ∀ other : Package, other.filter = package.filter →
            collect tree params other
              = .ok (references, { other with warnings := other.warnings ++ added }) := by
  obtain ⟨alone, -, scratched, -, -⟩ := exists_scratch_of_collect done
  have collected : ∀ other : Package, other.filter = package.filter →
      collect tree params other
        = .ok ((ofFiles params.config.defaultLocale alone.files).1,
            { other with warnings := other.warnings
                ++ (ofFiles params.config.defaultLocale alone.files).2 }) := by
    intro other same
    rw [← same] at scratched
    rw [collect_of_scratch scratched, warnings_scratch scratched, Package.warnAll_eq,
      Package.warnAll_eq, List.append_nil]
  have same := (collected package rfl).symm.trans done
  rw [Except.ok.injEq, Prod.mk.injEq] at same
  obtain ⟨rfl, rfl⟩ := same
  exact ⟨_, rfl, isCollected_ofFiles isName scratched, collected⟩

def damagedLocale : Entries :=
  Entries.set "a.properties" (.file "k=v\njunk\n".toUTF8)
    (Entries.set "b.dtd" (.file "<!ENTITY".toUTF8)
      (Entries.set "x.properties" (.file ⟨#[0xFF]⟩) []))

def singleBundle : Entries :=
  Entries.set "x.json" (.file "\x7b\"m\": [\"1\"]\x7d".toUTF8) []

def damagedChrome : Entries :=
  Entries.set "locale" (.directory (Entries.set "en-US" (.directory damagedLocale) [])) []

/-- A project with damaged files in its default locale, one of which a bundle replaces. -/
def damagedProject : Entries :=
  Entries.set "chrome" (.directory damagedChrome)
    (Entries.set "en-US" (.directory singleBundle) [])

theorem wellFormed_damagedProject : damagedProject.WellFormed := by
  have locale : damagedLocale.WellFormed :=
    ((Entries.wellFormed_nil.set (by decide) (.file _)).set (by decide) (.file _)).set (by decide)
      (.file _)
  have bundle : singleBundle.WellFormed := Entries.wellFormed_nil.set (by decide) (.file _)
  have chrome : damagedChrome.WellFormed :=
    Entries.wellFormed_nil.set (by decide) (Entries.wellFormed_nil.set (by decide) locale)
  exact (Entries.wellFormed_nil.set (by decide) bundle).set (by decide) chrome

def damagedTree : FileTree :=
  ⟨damagedProject, wellFormed_damagedProject⟩

def damagedParams : BuildParams where
  config := .ofBase ⟨"."⟩
  locales := []
  version := ""
  metadata := ⟨[(MessageBundle.sectionName, [("*/x.json", ⟨"*", ⟨"metadata.gecko"⟩⟩)])]⟩
  contributors := []

/-- The bundle takes the place of the file that is no text, which is not reported. -/
theorem exists_isCollected_of_collect_damaged
    : ∃ references changed,
        collect damagedTree damagedParams (.empty ⟨["chrome"], []⟩) = .ok (references, changed)
        ∧ IsCollected damagedTree damagedParams ⟨["chrome"], []⟩ references changed.warnings
        ∧ references.catalogs.keys = ["a.properties", "x.properties"]
        ∧ changed.warnings.map (·.kind) = [.unrecognizedCatalogLine, .malformedCatalog] := by
  have summary : (collect damagedTree damagedParams (.empty ⟨["chrome"], []⟩)).toOption.map
        (fun collected => (collected.1.catalogs.keys, collected.2.warnings.map (·.kind)))
      = some (["a.properties", "x.properties"],
          [.unrecognizedCatalogLine, .malformedCatalog]) := by
    decide +kernel
  obtain ⟨⟨references, changed⟩, done, found⟩ := exists_of_map_toOption summary
  obtain ⟨keys, kinds⟩ := Prod.mk.inj found
  have isName : Locale.isName damagedParams.config.defaultLocale = true := by decide
  obtain ⟨added, rfl, collected, -⟩ := exists_isCollected_of_collect isName done
  exact ⟨references, _, done, collected, keys, kinds⟩

end AddonPackager.Locale.References
