import AddonPackager.Proofs.Build.IgnoredNames
import AddonPackager.Proofs.DiskPath.Joining

/-! Paths of archive members. Walks and generated files have proper names as their segments. A
mapping packages its files under the path it was given, which may have other segments.
-/

namespace AddonPackager

variable {signer : Signature.Signer} {tree : FileTree} {config : BuildConfig}
  {control : VersionControl} {params : BuildParams} {filter : PathFilter} {built : Assembled}
  {package changed alone : Package} {path name locale file : String} {location : Location}
  {source : DiskPath} {skip : List String}

-----------------------------------------------------------------------------------------
-- Proper paths
-----------------------------------------------------------------------------------------

namespace PathFilter

/-- A path whose segments are proper names: not empty, no single dot and no double dot. -/
def IsProper (path : String) : Prop :=
  ∀ segment ∈ segments path, isEntryName segment = true

instance : Decidable (IsProper path) :=
  inferInstanceAs (Decidable (∀ segment ∈ segments path, isEntryName segment = true))

theorem segments_eq : segments path = DiskPath.segments ⟨path⟩ :=
  rfl

theorem isProper_of_isEntryName (proper : isEntryName name = true) : IsProper name := by
  rw [IsProper, segments_of_isEntryName proper]
  exact List.forall_mem_singleton.mpr proper

/-- A path is proper if what stands before and behind a slash is. -/
theorem isProper_iff_of_split {front back : String}
    (split : path.toList = front.toList ++ '/' :: back.toList)
    : IsProper path ↔ IsProper front ∧ IsProper back := by
  rw [IsProper, segments_of_split split, List.forall_mem_append]
  rfl

/-- A file of a locale has a proper path if it has one inside the locale. -/
theorem isProper_path (named : Locale.isName locale = true) (proper : IsProper file)
    : IsProper (Locale.path locale file) := by
  have isName := Locale.isEntryName_of_isName named
  rw [IsProper, segments_path, segments_of_isEntryName isName]
  simp only [List.cons_append, List.nil_append, List.forall_mem_cons]
  exact ⟨by decide, by decide, isName, proper⟩

-----------------------------------------------------------------------------------------
-- Walks
-----------------------------------------------------------------------------------------

/-- What is found in a directory that is read under a proper path, or at the top, has a proper path. -/
theorem isProper_pathOf (start : path = "" ∨ IsProper path) (deeper : location ≠ [])
    (named : ∀ name ∈ location, isEntryName name = true)
    : IsProper (pathOf path location) := by
  have inside : ∀ {path}, path ≠ "" → IsProper path →
      ∀ {location}, (∀ name ∈ location, isEntryName name = true) →
      IsProper (pathOf path location) := by
    intro path nonempty proper location named
    rw [IsProper, segments_pathOf nonempty named]
    exact List.forall_mem_append.mpr ⟨proper, named⟩
  rcases start with rfl | proper
  · obtain ⟨name, rest, rfl⟩ := List.exists_cons_of_ne_nil deeper
    obtain ⟨nameProper, restNamed⟩ := List.forall_mem_cons.mp named
    have nonempty : name ≠ "" := by
      rintro rfl
      exact absurd nameProper (by decide)
    exact inside nonempty (isProper_of_isEntryName nameProper) restNamed
  · have nonempty : path ≠ "" := by
      rintro rfl
      exact absurd proper (by decide)
    exact inside nonempty proper named

/-- Reading a directory offers what is found along proper names. -/
theorem exists_location_of_mem_sourceFiles {entry : String × ByteArray}
    (isDirectory : tree.isDirectory source = true)
    (member : entry ∈ filter.sourceFiles tree source path skip)
    : ∃ location,
        location ≠ []
        ∧ (∀ name ∈ location, isEntryName name = true)
        ∧ entry.1 = pathOf path location := by
  obtain ⟨entries, listed⟩ := Option.isSome_iff_exists.mp isDirectory
  have wellFormed := FileTree.wellFormed_of_list? listed
  rw [sourceFiles_eq_flatFiles listed] at member
  obtain ⟨location, found, -, here, -⟩ := (mem_flatFiles_iff wellFormed).mp member
  refine ⟨location, ?_, wellFormed.isEntryName_of_at? found, here⟩
  rintro rfl
  cases found

theorem isProper_of_mem_sourceFiles {entry : String × ByteArray} (start : path = "" ∨ IsProper path)
    (isDirectory : tree.isDirectory source = true)
    (member : entry ∈ filter.sourceFiles tree source path skip)
    : IsProper entry.1 := by
  obtain ⟨location, deeper, named, here⟩ := exists_location_of_mem_sourceFiles isDirectory member
  rw [here]
  exact isProper_pathOf start deeper named

end PathFilter

open PathFilter (IsProper isProper_iff_of_split isProper_of_isEntryName isProper_path)

-----------------------------------------------------------------------------------------
-- Sources
-----------------------------------------------------------------------------------------

namespace Build

/-- A path that a mapping packages a file under although its target is not proper. -/
def IsMappedTo (tree : FileTree) (params : BuildParams) (filter : PathFilter) (path : String)
    : Prop :=
  ∃ item ∈ params.metadata.items mappingSection,
    ¬ IsProper item.key ∧ path ∈ Assoc.names (mappedFiles tree filter item)

theorem isProper_part {part : String × DiskPath}
    (named : ∀ locale ∈ params.locales, Locale.isName locale = true)
    (isPart : part ∈ params.config.chromeParts params.locales)
    : IsProper (chromeName ++ "/" ++ part.1) := by
  rw [BuildConfig.chromeParts, List.mem_append] at isPart
  rcases isPart with fixed | ofLocale
  · simp only [List.map_cons, List.map_nil, List.mem_cons, List.not_mem_nil, or_false] at fixed
    rcases fixed with rfl | rfl
    · exact show IsProper (chromeName ++ "/" ++ "content") by decide +kernel
    · exact show IsProper (chromeName ++ "/" ++ "skin") by decide +kernel
  · obtain ⟨locale, packaged, rfl⟩ := List.mem_map.mp ofLocale
    have split : (chromeName ++ "/" ++ ("locale/" ++ locale)).toList
        = "chrome/locale".toList ++ '/' :: locale.toList := by
      simp [chromeName]
    have directory : IsProper "chrome/locale" := by decide +kernel
    exact (isProper_iff_of_split split).mpr
      ⟨directory, isProper_of_isEntryName (Locale.isEntryName_of_isName (named locale packaged))⟩

/-- Sources offer proper paths, such mappings apart. -/
theorem isProper_or_isMappedTo_of_mem_sources {source : List (String × ByteArray)}
    (isDirectory : tree.isDirectory params.config.base = true)
    (named : ∀ locale ∈ params.locales, Locale.isName locale = true)
    (member : source ∈ sources tree params filter) (offered : path ∈ Assoc.names source)
    : IsProper path ∨ IsMappedTo tree params filter path := by
  rcases mem_sources_iff.mp member with rfl | ⟨item, isItem, rfl⟩ | rfl | ⟨part, isPart, rfl⟩
  · have manifest : path = InstallManifest.archivePath := List.mem_singleton.mp offered
    have proper : IsProper InstallManifest.archivePath := by decide +kernel
    exact .inl (manifest ▸ proper)
  · by_cases targetProper : IsProper item.key
    · obtain ⟨entry, listed, rfl⟩ := List.mem_map.mp offered
      rw [mappedFiles] at listed
      split at listed
      · rcases PathFilter.mem_sourceFiles_cases listed with ⟨here, -⟩ | ⟨isDirectory, -⟩
        · exact .inl (here ▸ targetProper)
        · exact .inl (PathFilter.isProper_of_mem_sourceFiles (.inr targetProper) isDirectory listed)
      · cases listed
    · exact .inr ⟨item, isItem, targetProper, offered⟩
  · obtain ⟨entry, listed, rfl⟩ := List.mem_map.mp offered
    exact .inl (PathFilter.isProper_of_mem_sourceFiles (.inl rfl) isDirectory listed)
  · obtain ⟨entry, listed, rfl⟩ := List.mem_map.mp offered
    rw [partFiles] at listed
    split at listed
    · rename_i partIsDirectory
      exact .inl (PathFilter.isProper_of_mem_sourceFiles (.inr (isProper_part named isPart))
        partIsDirectory listed)
    · cases listed

end Build

-----------------------------------------------------------------------------------------
-- The default locale
-----------------------------------------------------------------------------------------

namespace DiskPath

theorem text_append_name_ne {base : DiskPath} (proper : isEntryName name = true)
    : (base ++ DiskPath.mk name).text ≠ "" := by
  by_cases empty : base.text = ""
  · have joined : base ++ DiskPath.mk name = base.append ⟨name⟩ := rfl
    rw [joined, append, if_pos (by simp [empty])]
    rintro rfl
    exact absurd proper (by decide)
  · exact text_append_ne empty (isAbsolute_name proper)

/-- Joining with an absolute path leaves that path alone. -/
theorem append_of_isAbsolute {base other : DiskPath} (absolute : other.isAbsolute = true)
    : base ++ other = other := by
  have joined : base ++ other = base.append other := rfl
  rw [joined, append, absolute, Bool.true_or, if_pos rfl]

/-- The steps of segments without a root or a dot are named like the segments that lead somewhere. -/
theorem map_text_stepsOf {segments : List String}
    : (stepsOf segments).map Component.text = segments.filter (!isIdle ·) := by
  have named : ∀ segment, (Component.ofSegment segment).text = segment := by
    intro segment
    rw [Component.ofSegment]
    split
    · rename_i parent
      exact (beq_iff_eq.mp parent).symm
    · rfl
  rw [stepsOf, List.map_map]
  exact (List.map_congr_left fun segment _ => named segment).trans (List.map_id' _)

end DiskPath

/-- However a locale is written, its directory is packaged under its segments that lead somewhere. -/
theorem BuildConfig.segments_archiveName (config : BuildConfig)
    (relative : (DiskPath.mk locale).isAbsolute = false)
    : PathFilter.segments ((config.localeDirectory locale).archiveName config.base)
      = "chrome" :: "locale" :: (PathFilter.segments locale).filter (!DiskPath.isIdle ·) := by
  have steps : (config.localeDirectory locale).components
      = config.base.components
        ++ (.entry "chrome" :: .entry "locale"
          :: DiskPath.stepsOf (DiskPath.segments ⟨locale⟩)) := by
    rw [localeDirectory, localesDirectory, chromeDirectory,
      DiskPath.components_append (DiskPath.text_append_name_ne (by decide)) relative,
      DiskPath.components_append_name (by decide), DiskPath.components_append_name (by decide)]
    simp
  have plain : ∀ name ∈ "chrome" :: "locale"
      :: (DiskPath.segments ⟨locale⟩).filter (!DiskPath.isIdle ·), '/' ∉ name.toList := by
    simp only [List.forall_mem_cons]
    exact ⟨by decide, by decide, fun name member =>
      DiskPath.not_mem_of_mem_segments (List.mem_filter.mp member).1⟩
  rw [DiskPath.archiveName_of_components steps, List.map_cons, List.map_cons,
    DiskPath.map_text_stepsOf, DiskPath.Component.text, DiskPath.Component.text,
    PathFilter.segments_eq, DiskPath.segments_join (List.cons_ne_nil _ _) plain,
    PathFilter.segments_eq]

/-- Imported catalogs have proper paths inside their locale. -/
theorem MessageBundle.isProper_of_mem_localeFiles {metadata : Metadata}
    (listed : Locale.path locale file ∈ Assoc.names (localeFiles tree metadata locale))
    : IsProper file := by
  obtain ⟨entry, member, same⟩ := List.mem_map.mp listed
  obtain ⟨item, -, -, here⟩ := exists_item_of_mem_localeFiles member
  have name : file = (sourcePath item locale).fileStem ++ ".properties" :=
    Locale.path_inj.mp (same.symm.trans here)
  have plain : '/' ∉ file.toList := by
    rw [name, String.toList_append, List.mem_append, not_or]
    exact ⟨DiskPath.not_mem_fileStem, by decide⟩
  have long : 3 ≤ file.toList.length := by
    rw [name]
    simp
  exact isProper_of_isEntryName (isEntryName_of_length plain long)

namespace Locale.References

/-- If some of what stands in front is left out, more is left behind it. -/
theorem isSuffix_of_filter_append {keep : String → Bool} {front back more : List String}
    (cut : front ++ back = front.filter keep ++ more)
    : back <:+ more := by
  have shorter : back.length ≤ more.length := by
    have lengths := congrArg List.length cut
    have fewer := List.length_filter_le keep front
    simp only [List.length_append] at lengths
    omega
  refine List.suffix_of_suffix_length_le (List.suffix_append front _) ?_ shorter
  rw [cut]
  exact List.suffix_append _ _

/-- The files in the directory of the default locale have proper paths inside it. Its segments that
lead nowhere are left out of their archive paths, so what stands behind the name of the locale in one
of these paths is a part of the way to the file.
-/
theorem isProper_of_mem_defaultFiles
    (listed : Locale.path params.config.defaultLocale file
      ∈ Assoc.names (Build.defaultFiles tree params filter))
    : IsProper file := by
  obtain ⟨entry, member, same⟩ := List.mem_map.mp listed
  simp only [Build.defaultFiles] at member
  split at member
  · rename_i isDirectory
    obtain ⟨location, deeper, named, here⟩ :=
      PathFilter.exists_location_of_mem_sourceFiles isDirectory member
    have relative : (DiskPath.mk params.config.defaultLocale).isAbsolute = false := by
      rw [Bool.eq_false_iff]
      intro absolute
      have inTree := FileTree.isAbsolute_of_isDirectory isDirectory
      rw [BuildConfig.localeDirectory, DiskPath.append_of_isAbsolute absolute, absolute] at inTree
      cases inTree
    have archived := BuildConfig.segments_archiveName params.config relative
    generalize (params.config.localeDirectory params.config.defaultLocale).archiveName
      params.config.base = directory at here archived
    have nonempty : directory ≠ "" := by
      rintro rfl
      exact absurd archived (by simp [PathFilter.segments])
    have whole : PathFilter.segments entry.1 = PathFilter.segments directory ++ location := by
      rw [here, PathFilter.segments_pathOf nonempty named]
    rw [same, PathFilter.segments_path, archived] at whole
    generalize PathFilter.segments params.config.defaultLocale = written at whole
    have cut : written ++ PathFilter.segments file
        = written.filter (!DiskPath.isIdle ·) ++ location := by
      simpa using whole
    exact fun segment inside => named segment ((isSuffix_of_filter_append cut).mem inside)
  · cases member

/-- The default locale alone has files with proper paths inside it. -/
theorem isProper_of_contains_scratch (scratched : scratch tree params filter = .ok alone)
    (stored : alone.contains (Locale.path params.config.defaultLocale file) = true)
    : IsProper file := by
  rcases mem_names_of_scratch scratched stored with read | imported
  · exact isProper_of_mem_defaultFiles read
  · exact MessageBundle.isProper_of_mem_localeFiles imported

end Locale.References

namespace Build

-----------------------------------------------------------------------------------------
-- Whole builds
-----------------------------------------------------------------------------------------

theorem isProper_modulePath {module : String} (named : Script.IsModuleName module)
    : IsProper (Bootstrap.modulePath module) := by
  have plain : '/' ∉ (module ++ ".js").toList := by
    simp [named.not_mem]
  have long : 3 ≤ (module ++ ".js").toList.length := by
    simp
  rw [IsProper, segments_modulePath named, List.forall_mem_cons, List.forall_mem_singleton]
  exact ⟨by decide, isEntryName_of_length plain long⟩

/-- Steps generate proper paths. -/
theorem IsGenerated.isProper (named : ∀ locale ∈ params.locales, Locale.isName locale = true)
    (generated : IsGenerated tree params filter path)
    : IsProper path := by
  cases generated with
  | @imported locale file packaged listed =>
      obtain ⟨stem, here⟩ := MessageBundle.exists_path_of_mem_localeFiles listed
      have proper : IsProper (stem ++ ".properties") :=
        MessageBundle.isProper_of_mem_localeFiles (List.mem_map.mpr ⟨file, listed, here⟩)
      rw [here]
      exact isProper_path (named locale packaged) proper
  | @completed locale file alone packaged scratched known =>
      exact isProper_path (named locale packaged)
        (Locale.References.isProper_of_contains_scratch scratched known)
  | @required module moduleNamed => exact isProper_modulePath moduleNamed
  | started =>
      have start : IsProper Bootstrap.archivePath := by decide +kernel
      exact start

/-- A package that passes the checks has no invalid path. -/
theorem isInvalidPath_of_checked (done : checked package = .ok changed)
    (stored : package.contains path = true)
    : Package.isInvalidPath path = false := by
  have passed : package.validate = .ok () := by
    rw [checked] at done
    split at done
    · assumption
    · cases done
  rw [Package.validate] at passed
  split at passed
  · cases passed
  · split at passed
    · cases passed
    · rename_i none
      have listed : path ∈ package.paths := Dict.mem_keys_iff.mpr stored
      exact Bool.eq_false_iff.mpr (List.find?_eq_none.mp none path listed)

theorem isDirectory_of_forPackage {base : DiskPath}
    (done : PathFilter.forPackage tree base = .ok filter)
    : tree.isDirectory base = true := by
  rw [PathFilter.forPackage] at done
  split at done
  · rename_i entries listed
    rw [FileTree.isDirectory, listed]
    rfl
  · cases done

/-- Every packaged path is relative and not empty. Its segments are proper names, unless a mapping has
a target with other segments: what such a mapping packages keeps its target.
-/
theorem isProper_or_isMappedTo_of_assemble (done : assemble signer tree config control = .ok built)
    : ∃ filter,
        PathFilter.forPackage tree config.base = .ok filter
        ∧ (∀ path,
            built.package.contains path = true →
            path ≠ ""
            ∧ Text.startsWith path "/" = false
            ∧ (IsProper path ∨ IsMappedTo tree built.params filter path))
        ∧ ∀ path,
            IsMappedTo tree built.params filter path →
            built.package.contains path = true := by
  obtain ⟨steps⟩ := nonempty_steps_of_assemble done
  refine ⟨steps.filter, steps.filterDone, ?_, ?_⟩
  · intro path stored
    have isDirectory : tree.isDirectory built.params.config.base = true := by
      rw [steps.config_eq]
      exact isDirectory_of_forPackage steps.filterDone
    have valid : Package.isInvalidPath path = false
        ∧ (IsProper path ∨ IsMappedTo tree built.params steps.filter path) := by
      rcases mem_signaturePaths_or_contains_of_signed steps.signed_rendered stored
        with signature | unsigned
      · have proper : ∀ path ∈ signaturePaths,
            Package.isInvalidPath path = false ∧ IsProper path := by
          decide +kernel
        exact (proper path signature).imp_right .inl
      · refine ⟨isInvalidPath_of_checked steps.validDone unsigned, ?_⟩
        rcases steps.isOrigin_of_contains unsigned with ⟨source, member, offered⟩ | generated
        · exact isProper_or_isMappedTo_of_mem_sources isDirectory steps.isName member offered
        · exact .inl (generated.isProper steps.isName)
    simpa [Package.isInvalidPath, and_assoc] using valid
  · rintro path ⟨item, isItem, improper, offered⟩
    have isSource : mappedFiles tree steps.filter item ∈ sources tree built.params steps.filter :=
      mem_sources_iff.mpr (.inr (.inl ⟨item, isItem, rfl⟩))
    exact steps.contains_of_mem_sources isSource offered

/-- A project that maps a file to a target with a double dot. -/
def parentProject : Entries :=
  Entries.set "bootstrap.js" (.file .empty)
    (Entries.set "own.txt" (.file "mapped".toUTF8)
      (directoryOf "metadata.gecko"
        "[general]\nbasename=t\nid=t@t\nversion=1\n[mapping]\nlib/../own.txt=own.txt\n"))

def parentTree : FileTree where
  root := parentProject
  wellFormed :=
    have metadata := Entries.wellFormed_nil.set (by decide) (.file _)
    (metadata.set (by decide) (.file _)).set (by decide) (.file _)

theorem exists_assemble_parent
    : ∃ built,
        assemble ⟨fun _ _ => none⟩ parentTree germanConfig = .ok built
        ∧ built.package.contains "lib/../own.txt" = true := by
  apply exists_of_map_toOption
  decide +kernel

/-- The mapped file is packaged, and it is the mapping that brings it. -/
theorem isProper_or_isMappedTo_of_assemble_parent
    : ∃ built filter,
        assemble ⟨fun _ _ => none⟩ parentTree germanConfig = .ok built
        ∧ built.package.contains "lib/../own.txt" = true
        ∧ IsMappedTo parentTree built.params filter "lib/../own.txt" := by
  obtain ⟨built, done, stored⟩ := exists_assemble_parent
  obtain ⟨filter, -, members, -⟩ := isProper_or_isMappedTo_of_assemble done
  have improper : ¬ IsProper "lib/../own.txt" := by decide +kernel
  exact ⟨built, filter, done, stored, (members _ stored).2.2.resolve_left improper⟩

/-- A double dot is packaged. -/
theorem exists_not_isProper_of_assemble
    : ∃ built,
        assemble ⟨fun _ _ => none⟩ parentTree germanConfig = .ok built
        ∧ built.package.contains "lib/../own.txt" = true
        ∧ ".." ∈ PathFilter.segments "lib/../own.txt" := by
  obtain ⟨built, done, stored⟩ := exists_assemble_parent
  exact ⟨built, done, stored, by decide +kernel⟩

end Build

end AddonPackager
