import AddonPackager.Proofs.Build.LocaleScope
import AddonPackager.Proofs.DiskPath.FileNames
import AddonPackager.Proofs.Package.FlatWalk

/-! Names that are never packaged. Walks leave them out, and no step generates them, except that a
mapping may ask for one, and that a bundle may be called like the file with data about a locale.
-/

namespace AddonPackager

variable {signer : Signature.Signer} {tree : FileTree} {config : BuildConfig}
  {control : VersionControl} {params : BuildParams} {filter : PathFilter} {built : Assembled}
  {alone : Package} {path name locale file : String}

-----------------------------------------------------------------------------------------
-- Clean paths
-----------------------------------------------------------------------------------------

namespace PathFilter

/-- A path without ignored segments. -/
def IsClean (path : String) : Prop :=
  ∀ segment ∈ segments path, segment ∉ ignoredSegments

instance : Decidable (IsClean path) :=
  inferInstanceAs (Decidable (∀ segment ∈ segments path, segment ∉ ignoredSegments))

theorem segments_of_not_mem (plain : '/' ∉ name.toList) : segments name = [name] := by
  rw [segments, List.splitOn_eq_singleton plain]
  simp

/-- A name is clean if it is not ignored itself. -/
theorem isClean_iff_of_not_mem (plain : '/' ∉ name.toList)
    : IsClean name ↔ name ∉ ignoredSegments := by
  simp [IsClean, segments_of_not_mem plain]

/-- A file of a locale is clean if the locale and the file are. -/
theorem isClean_path_iff : IsClean (Locale.path locale file) ↔ IsClean locale ∧ IsClean file := by
  have root : "chrome" ∉ ignoredSegments ∧ "locale" ∉ ignoredSegments := by decide
  simp only [IsClean, segments_path, List.forall_mem_cons, List.forall_mem_append]
  rw [and_iff_right root.1, and_iff_right root.2]

theorem isClean_of_isName (isName : Locale.isName locale = true) : IsClean locale := by
  rw [isClean_iff_of_not_mem (Locale.not_mem_of_isName isName)]
  intro ignored
  have unnamed : ∀ name ∈ ignoredSegments, Locale.isName name = false := by decide
  rw [unnamed locale ignored] at isName
  cases isName

theorem ignored_of_forPackage {base : DiskPath} (done : forPackage tree base = .ok filter)
    : filter.ignored = ignoredSegments := by
  rw [forPackage] at done
  split at done
  · cases done
    rfl
  · cases done

theorem isClean_of_admits (ignores : filter.ignored = ignoredSegments)
    (admits : filter.admits path = true)
    : IsClean path := by
  rw [PathFilter.admits, ignores, Bool.and_eq_true] at admits
  simpa [IsClean] using admits.2

end PathFilter

open PathFilter (IsClean isClean_iff_of_not_mem isClean_path_iff isClean_of_isName
  isClean_of_admits)

-----------------------------------------------------------------------------------------
-- Sources
-----------------------------------------------------------------------------------------

theorem FileTree.exists_lookup?_of_isFile {source : DiskPath} (isFile : tree.isFile source = true)
    : ∃ content, tree.lookup? source = some (.file content) := by
  rw [FileTree.isFile, FileTree.read?] at isFile
  split at isFile
  · rename_i content found
    exact ⟨content, found⟩
  · cases isFile

namespace Build

/-- A path without a slash that a mapping gives a file. -/
def IsMappedName (tree : FileTree) (params : BuildParams) (path : String) : Prop :=
  ∃ item ∈ params.metadata.items mappingSection,
    item.key = path ∧ '/' ∉ path.toList ∧ tree.isFile (Package.mappedSource item) = true

/-- Sources offer ignored names for such mappings only. -/
theorem isClean_or_isMappedName_of_mem_sources {source : List (String × ByteArray)}
    (ignores : filter.ignored = PathFilter.ignoredSegments)
    (member : source ∈ sources tree params filter) (offered : path ∈ Assoc.names source)
    : IsClean path ∨ IsMappedName tree params path := by
  obtain ⟨entry, listed, rfl⟩ := List.mem_map.mp offered
  rcases mem_sources_iff.mp member with rfl | ⟨item, isItem, rfl⟩ | rfl | ⟨part, -, rfl⟩
  · rw [List.mem_singleton.mp listed]
    have manifest : IsClean InstallManifest.archivePath := by decide
    exact .inl manifest
  · rw [mappedFiles] at listed
    split at listed
    · rename_i mapped
      rcases PathFilter.mem_sourceFiles_cases listed with ⟨here, isFile⟩ | ⟨-, admits⟩
      · rw [here]
        simp only [Package.isMapped, Bool.or_eq_true, Bool.not_eq_true', List.contains_eq_mem,
          decide_eq_false_iff_not] at mapped
        rcases mapped with plain | admits
        · exact .inr ⟨item, isItem, rfl, plain, isFile⟩
        · exact .inl (isClean_of_admits ignores admits)
      · exact .inl (isClean_of_admits ignores admits)
    · cases listed
  · rcases PathFilter.mem_sourceFiles_cases listed with ⟨here, -⟩ | ⟨-, admits⟩
    · rw [here]
      have top : IsClean "" := by decide
      exact .inl top
    · exact .inl (isClean_of_admits ignores admits)
  · rw [partFiles] at listed
    split at listed
    · rename_i isDirectory
      exact .inl
        (isClean_of_admits ignores (PathFilter.admits_of_mem_sourceFiles isDirectory listed))
    · cases listed

end Build

-----------------------------------------------------------------------------------------
-- Generated files
-----------------------------------------------------------------------------------------

/-- A catalog that is imported under the name of the file with data about a locale, since its bundle
is called like it.
-/
def MessageBundle.IsImportedDetails (tree : FileTree) (metadata : Metadata) (locale file : String)
    : Prop :=
  file = LocaleDetails.fileName
  ∧ ∃ item ∈ metadata.items sectionName,
      tree.isFile (sourcePath item locale) = true
      ∧ (sourcePath item locale).fileStem = "meta"

theorem eq_of_not_isClean_stem {stem : String} (plain : '/' ∉ stem.toList)
    (ignored : ¬ IsClean (stem ++ ".properties"))
    : stem = "meta" := by
  have noSlash : '/' ∉ (stem ++ ".properties").toList := by
    simpa using plain
  rw [isClean_iff_of_not_mem noSlash, Classical.not_not] at ignored
  simp only [PathFilter.ignoredSegments, List.mem_cons, List.not_mem_nil, or_false] at ignored
  rcases ignored with marker | details
  · have last := congrArg (fun text => text.toList.getLast?) marker
    simp at last
  · have chars : stem.toList ++ ".properties".toList = "meta".toList ++ ".properties".toList := by
      rw [← String.toList_append, details]
      rfl
    exact String.toList_inj.mp (List.append_cancel_right chars)

/-- An imported catalog is clean or that of such a bundle. -/
theorem MessageBundle.isClean_or_isImportedDetails {metadata : Metadata}
    (member : Locale.path locale file ∈ Assoc.names (localeFiles tree metadata locale))
    : IsClean file ∨ IsImportedDetails tree metadata locale file := by
  obtain ⟨entry, listed, same⟩ := List.mem_map.mp member
  obtain ⟨item, isItem, isFile, here⟩ := exists_item_of_mem_localeFiles listed
  have name : file = (sourcePath item locale).fileStem ++ ".properties" :=
    Locale.path_inj.mp (same.symm.trans here)
  refine or_iff_not_imp_left.mpr fun ignored => ?_
  rw [name] at ignored
  have isMeta := eq_of_not_isClean_stem DiskPath.not_mem_fileStem ignored
  refine ⟨?_, item, isItem, isFile, isMeta⟩
  rw [name, isMeta]
  rfl

/-- The default locale alone has clean files and the catalog of such a bundle. -/
theorem Locale.References.isClean_or_isImportedDetails_of_scratch
    (ignores : filter.ignored = PathFilter.ignoredSegments)
    (scratched : scratch tree params filter = .ok alone)
    (stored : alone.contains (Locale.path params.config.defaultLocale file) = true)
    : IsClean file
      ∨ MessageBundle.IsImportedDetails tree params.metadata params.config.defaultLocale file := by
  rcases mem_names_of_scratch scratched stored with read | imported
  · obtain ⟨entry, listed, same⟩ := List.mem_map.mp read
    have clean := isClean_of_admits ignores (admits_of_mem_defaultFiles listed)
    rw [same] at clean
    exact .inl (isClean_path_iff.mp clean).2
  · exact MessageBundle.isClean_or_isImportedDetails imported

namespace Build

/-- A catalog of a packaged locale that is imported, or copied from the default locale, from a bundle
called like the file with data about a locale.
-/
def IsImportedName (tree : FileTree) (params : BuildParams) (path : String) : Prop :=
  ∃ locale ∈ params.locales, ∃ file,
    path = Locale.path locale file
    ∧ (MessageBundle.IsImportedDetails tree params.metadata locale file
      ∨ MessageBundle.IsImportedDetails tree params.metadata params.config.defaultLocale file)

theorem segments_modulePath {module : String} (named : Script.IsModuleName module)
    : PathFilter.segments (Bootstrap.modulePath module) = ["lib", module ++ ".js"] := by
  have split : (Bootstrap.modulePath module).toList
      = "lib".toList ++ '/' :: (module ++ ".js").toList := by
    simp [Bootstrap.modulePath]
  rw [PathFilter.segments_of_split split, PathFilter.segments_of_not_mem (by decide),
    PathFilter.segments_of_not_mem (by simp [named.not_mem])]
  rfl

theorem isClean_modulePath {module : String} (named : Script.IsModuleName module)
    : IsClean (Bootstrap.modulePath module) := by
  rw [IsClean, segments_modulePath named, List.forall_mem_cons, List.forall_mem_singleton]
  refine ⟨by decide, ?_⟩
  intro ignored
  simp only [PathFilter.ignoredSegments, List.mem_cons, List.not_mem_nil, or_false] at ignored
  rcases ignored with same | same
  all_goals
    have ending := congrArg (fun text => text.toList.reverse.take 2) same
    simp at ending

/-- No step generates a path with an ignored name, imported names apart. -/
theorem IsGenerated.isClean_or_isImportedName (ignores : filter.ignored = PathFilter.ignoredSegments)
    (named : ∀ locale ∈ params.locales, Locale.isName locale = true)
    (generated : IsGenerated tree params filter path)
    : IsClean path ∨ IsImportedName tree params path := by
  cases generated with
  | @imported locale file packaged listed =>
      obtain ⟨stem, here⟩ := MessageBundle.exists_path_of_mem_localeFiles listed
      have offered : Locale.path locale (stem ++ ".properties")
          ∈ Assoc.names (MessageBundle.localeFiles tree params.metadata locale) :=
        List.mem_map.mpr ⟨file, listed, here⟩
      rw [here]
      rcases MessageBundle.isClean_or_isImportedDetails offered with clean | details
      · exact .inl (isClean_path_iff.mpr ⟨isClean_of_isName (named locale packaged), clean⟩)
      · exact .inr ⟨locale, packaged, _, rfl, .inl details⟩
  | @completed locale file alone packaged scratched known =>
      rcases Locale.References.isClean_or_isImportedDetails_of_scratch ignores scratched known
        with clean | details
      · exact .inl (isClean_path_iff.mpr ⟨isClean_of_isName (named locale packaged), clean⟩)
      · exact .inr ⟨locale, packaged, file, rfl, .inr details⟩
  | required named => exact .inl (isClean_modulePath named)
  | started =>
      have start : IsClean Bootstrap.archivePath := by decide
      exact .inl start

-----------------------------------------------------------------------------------------
-- Whole builds
-----------------------------------------------------------------------------------------

/-- Ignored names are packaged for mappings only, imported names apart: a mapping without a slash is
not checked, and its file is packaged, whatever it is called.
-/
theorem isClean_or_isMappedName_of_assemble (done : assemble signer tree config control = .ok built)
    : (∀ path,
        built.package.contains path = true →
        IsClean path
        ∨ IsMappedName tree built.params path
        ∨ IsImportedName tree built.params path)
      ∧ ∀ path,
          IsMappedName tree built.params path →
          built.package.contains path = true := by
  obtain ⟨steps⟩ := nonempty_steps_of_assemble done
  obtain ⟨filter, unsigned, filterDone, -, -, origin, signedDone⟩ := exists_unsigned_of_assemble done
  have ignores := PathFilter.ignored_of_forPackage filterDone
  constructor
  · intro path stored
    rcases mem_signaturePaths_or_contains_of_signed signedDone stored with signature | unsignedStored
    · have clean : ∀ path ∈ signaturePaths, IsClean path := by decide
      exact .inl (clean path signature)
    · rcases origin path unsignedStored with ⟨source, member, offered⟩ | generated
      · exact (isClean_or_isMappedName_of_mem_sources ignores member offered).imp_right .inl
      · exact (generated.isClean_or_isImportedName ignores steps.isName).imp_right .inr
  · rintro path ⟨item, isItem, rfl, plain, isFile⟩
    have isSource : mappedFiles tree steps.filter item ∈ sources tree built.params steps.filter :=
      mem_sources_iff.mpr (.inr (.inl ⟨item, isItem, rfl⟩))
    refine steps.contains_of_mem_sources isSource ?_
    obtain ⟨content, found⟩ := FileTree.exists_lookup?_of_isFile isFile
    rw [mappedFiles, if_pos (by simp [Package.isMapped, plain]), PathFilter.sourceFiles, found]
    exact List.mem_singleton.mpr rfl

def ignoredMetadata : String :=
  "[general]\nbasename=t\nid=t@t\nversion=1\n"
    ++ "[mapping]\n.incomplete=own.txt\n"
    ++ "[import_locales]\n_locales/*/meta.json=*\n"

def ignoredBundles : Entries :=
  Entries.set "de" (.directory (directoryOf "meta.json" "\x7b\"a\": \x7b\"message\": \"x\"\x7d\x7d")) []

/-- A project that maps a file to an ignored name and imports a bundle under another one. -/
def ignoredProject : Entries :=
  Entries.set "bootstrap.js" (.file .empty)
    (Entries.set "own.txt" (.file "mapped".toUTF8)
      (Entries.set "_locales" (.directory ignoredBundles)
        (directoryOf "metadata.gecko" ignoredMetadata)))

theorem wellFormed_ignoredProject : ignoredProject.WellFormed := by
  have file (name text : String) (proper : isEntryName name = true)
      : (directoryOf name text).WellFormed :=
    Entries.wellFormed_nil.set proper (.file _)
  have bundles : ignoredBundles.WellFormed :=
    Entries.wellFormed_nil.set (by decide) (file _ _ (by decide))
  exact (((file _ _ (by decide)).set (by decide) bundles).set (by decide) (.file _)).set (by decide)
    (.file _)

def ignoredTree : FileTree :=
  ⟨ignoredProject, wellFormed_ignoredProject⟩

theorem exists_assemble_ignored
    : ∃ built,
        assemble ⟨fun _ _ => none⟩ ignoredTree germanConfig = .ok built
        ∧ built.params.metadata.items mappingSection
          = [⟨⟨"own.txt", ⟨"./metadata.gecko"⟩⟩, ".incomplete"⟩]
        ∧ built.package.paths
          = [".incomplete", "bootstrap.js", "chrome/locale/de/meta.properties", "install.rdf"] := by
  have summary : ((assemble ⟨fun _ _ => none⟩ ignoredTree germanConfig).toOption.map fun built =>
        (built.params.metadata.items mappingSection, built.package.paths))
      = some ([⟨⟨"own.txt", ⟨"./metadata.gecko"⟩⟩, ".incomplete"⟩],
          [".incomplete", "bootstrap.js", "chrome/locale/de/meta.properties", "install.rdf"]) := by
    decide +kernel
  obtain ⟨built, done, seen⟩ := exists_of_map_toOption summary
  simp only [Prod.mk.injEq] at seen
  exact ⟨built, done, seen.1, seen.2⟩

/-- The mapped file is packaged under its ignored name. -/
theorem isClean_or_isMappedName_of_assemble_ignored
    : ∃ built,
        assemble ⟨fun _ _ => none⟩ ignoredTree germanConfig = .ok built
        ∧ built.package.contains ".incomplete" = true := by
  obtain ⟨built, done, mapping, -⟩ := exists_assemble_ignored
  refine ⟨built, done, (isClean_or_isMappedName_of_assemble done).2 _ ?_⟩
  refine ⟨⟨⟨"own.txt", ⟨"./metadata.gecko"⟩⟩, ".incomplete"⟩, ?_, rfl, by decide, by decide +kernel⟩
  rw [mapping]
  exact List.mem_singleton.mpr rfl

/-- Ignored names are packaged: one that a mapping asks for, and one that comes from a bundle. -/
theorem exists_not_isClean_of_assemble
    : ∃ built,
        assemble ⟨fun _ _ => none⟩ ignoredTree germanConfig = .ok built
        ∧ ¬ IsClean ".incomplete"
        ∧ built.package.contains ".incomplete" = true
        ∧ ¬ IsClean (Locale.path "de" LocaleDetails.fileName)
        ∧ built.package.contains (Locale.path "de" LocaleDetails.fileName) = true := by
  obtain ⟨built, done, -, paths⟩ := exists_assemble_ignored
  have packaged : ∀ path ∈ built.package.paths, built.package.contains path = true :=
    fun _ listed => Dict.mem_keys_iff.mp listed
  rw [paths] at packaged
  exact ⟨built, done, by decide, packaged _ (by decide), by decide, packaged _ (by decide)⟩

end Build

end AddonPackager
