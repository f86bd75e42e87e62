import AddonPackager.Build.Assembly
import AddonPackager.Proofs.Bundle.Import
import AddonPackager.Proofs.DiskPath.ArchiveNames
import AddonPackager.Proofs.Locale.Collecting
import AddonPackager.Proofs.Package.Reading

/-! Gathering the files of a locale. The package and the scratch package of the references read
the default locale along different ways, but for catalogs they come to the same files.
-/

namespace AddonPackager.Build

variable {tree : FileTree} {params : BuildParams} {package changed : Package}
  {filter : PathFilter} {part : String × DiskPath} {file : String × ByteArray}
  {locale name : String}

-----------------------------------------------------------------------------------------
-- Parts of the chrome directory
-----------------------------------------------------------------------------------------

/-- The files that a part of the chrome directory offers. -/
def partFiles (tree : FileTree) (filter : PathFilter) (part : String × DiskPath)
    : List (String × ByteArray) :=
  if tree.isDirectory part.2 then
    filter.sourceFiles tree part.2 (chromeName ++ "/" ++ part.1) []
  else
    []

theorem eq_offerAll_of_gatherPart (done : gatherPart tree package part = .ok changed)
    : changed = package.offerAll (partFiles tree package.filter part) := by
  rw [gatherPart] at done
  rw [partFiles]
  split at done
  · rename_i isDirectory
    rw [if_pos isDirectory]
    exact Package.eq_offerAll_of_read done
  · rename_i missing
    cases done
    rw [if_neg missing]
    rfl

/-- The files of a part stand below its place in the chrome directory. -/
theorem prefix_of_mem_partFiles (member : file ∈ partFiles tree filter part)
    : chromeName.toList ++ '/' :: (part.1.toList ++ ['/']) <+: file.1.toList := by
  rw [partFiles] at member
  split at member
  · rename_i isDirectory
    obtain ⟨entries, found⟩ := FileTree.exists_lookup?_of_isDirectory isDirectory
    rw [PathFilter.sourceFiles, found] at member
    have nonempty : chromeName ++ "/" ++ part.1 ≠ "" := by
      intro empty
      have chars := congrArg String.toList empty
      simp [chromeName] at chars
    have isBelow := PathFilter.prefix_of_mem_admitted nonempty member
    rw [String.toList_append, String.toList_append, List.append_assoc, List.append_assoc] at isBelow
    exact isBelow
  · simp at member

/-- The part that is a locale. -/
def localePart (config : BuildConfig) (locale : String) : String × DiskPath :=
  ("locale/" ++ locale, config.localeDirectory locale)

/-- A path of a locale shows which part of the chrome directory it can come from. -/
theorem prefix_path_iff {start : List Char}
    : chromeName.toList ++ '/' :: start <+: (Locale.path locale name).toList
      ↔ start <+: "locale/".toList ++ (locale.toList ++ '/' :: name.toList) := by
  have root : Locale.rootPath.toList = chromeName.toList ++ '/' :: "locale".toList := by decide
  have directory : "locale/".toList = "locale".toList ++ ['/'] := by decide
  rw [Locale.toList_path, root, directory, List.append_assoc, List.append_assoc,
    List.prefix_append_right_inj, List.cons_append, List.cons_prefix_cons, List.singleton_append]
  simp

/-- Only the part of a locale has files of the locale. -/
theorem get?_partFiles_of_ne {config : BuildConfig} {locales : List String} (isName : Locale.isName locale = true)
    (named : ∀ other ∈ locales, Locale.isName other = true)
    (member : part ∈ config.chromeParts locales)
    (different : part ≠ localePart config locale)
    : Assoc.get? (Locale.path locale name) (partFiles tree filter part) = none := by
  rw [Assoc.get?_eq_none_iff]
  intro listed
  obtain ⟨file, fileMember, here⟩ := List.mem_map.mp listed
  have isBelow := prefix_of_mem_partFiles fileMember
  rw [here, prefix_path_iff] at isBelow
  rw [BuildConfig.chromeParts, List.mem_append] at member
  rcases member with fixed | locale'
  · simp only [List.map_cons, List.map_nil, List.mem_cons, List.not_mem_nil, or_false] at fixed
    rcases fixed with rfl | rfl <;> simp at isBelow
  · obtain ⟨other, otherMember, rfl⟩ := List.mem_map.mp locale'
    rw [String.toList_append, List.append_assoc, List.prefix_append_right_inj] at isBelow
    obtain ⟨rest, split⟩ := isBelow
    rw [List.append_assoc, List.singleton_append] at split
    have same := Text.append_cons_inj (Locale.not_mem_of_isName (named other otherMember))
      (Locale.not_mem_of_isName isName) split
    have sameLocale : other = locale := String.toList_inj.mp same.1
    exact different (sameLocale ▸ rfl)

/-- Of all parts, only that of a packaged locale offers its files. -/
theorem get?_flatMap_partFiles {config : BuildConfig} {locales : List String}
    (named : ∀ other ∈ locales, Locale.isName other = true) (member : locale ∈ locales)
    : Assoc.get? (Locale.path locale name)
        ((config.chromeParts locales).flatMap (partFiles tree filter))
      = Assoc.get? (Locale.path locale name)
          (partFiles tree filter (localePart config locale)) := by
  have chosen : localePart config locale ∈ config.chromeParts locales :=
    List.mem_append_right _ (List.mem_map.mpr ⟨locale, member, rfl⟩)
  have others : ∀ part ∈ config.chromeParts locales, part ≠ localePart config locale →
      Assoc.get? (Locale.path locale name) (partFiles tree filter part) = none :=
    fun part partMember different =>
      get?_partFiles_of_ne (named locale member) named partMember different
  rw [Assoc.get?_flatMap others, if_pos chosen]

-----------------------------------------------------------------------------------------
-- The package
-----------------------------------------------------------------------------------------

/-- Without mapped files, gathering stores the install manifest and offers the files of the
directory, except its chrome directory, and then the parts of that.
-/
theorem eq_offerAll_of_gather (unmapped : params.metadata.items mappingSection = [])
    (done : gather tree params package = .ok changed)
    : ∃ manifest,
        changed = (package.putText InstallManifest.archivePath manifest).offerAll
          (package.filter.sourceFiles tree params.config.base "" [chromeName]
            ++ (params.config.chromeParts params.locales).flatMap
                (partFiles tree package.filter)) := by
  unfold gather at done
  simp only [unmapped, Package.readMapped, List.foldl_nil] at done
  obtain ⟨read, base, parts⟩ := exists_of_bind_eq_ok done
  have gathered := Package.eq_offerAll_of_foldlM eq_offerAll_of_gatherPart parts
  rw [Package.eq_offerAll_of_read base, Package.filter_offerAll] at gathered
  refine ⟨InstallManifest.create tree params, ?_⟩
  rw [Package.offerAll_append, gathered]
  rfl

/-- What stands at the top of a package is no file of a locale. -/
theorem ne_path_of_head {path : String} (elsewhere : path.toList.head? ≠ some 'c')
    : path ≠ Locale.path locale name := by
  rintro rfl
  rw [Locale.toList_path] at elsewhere
  exact elsewhere rfl

/-- The directory without its chrome directory has no files of locales. -/
theorem get?_sourceFiles_top
    : Assoc.get? (Locale.path locale name)
        (filter.sourceFiles tree params.config.base "" [chromeName])
      = none := by
  rw [Assoc.get?_eq_none_iff]
  intro listed
  obtain ⟨file, fileMember, here⟩ := List.mem_map.mp listed
  have plain : '/' ∉ chromeName.toList := by decide
  refine PathFilter.not_prefix_of_mem_sourceFiles (List.mem_singleton.mpr rfl) plain fileMember ?_
  rw [here, prefix_path_iff]
  exact List.nil_prefix

/-- For a catalog of a packaged locale, only the part of the locale counts. -/
theorem get?_gather {format : CatalogFormat} (expands : package.OnlyExpandsManifests)
    (unmapped : params.metadata.items mappingSection = [])
    (catalog : CatalogFormat.ofPath? name = some format)
    (named : ∀ other ∈ params.locales, Locale.isName other = true)
    (member : locale ∈ params.locales)
    (absent : package.get? (Locale.path locale name) = none)
    (done : gather tree params package = .ok changed)
    : changed.get? (Locale.path locale name)
      = Assoc.get? (Locale.path locale name)
          (partFiles tree package.filter (localePart params.config locale)) := by
  obtain ⟨manifest, rfl⟩ := eq_offerAll_of_gather unmapped done
  have isCatalog : CatalogFormat.ofPath? (Locale.path locale name) = some format := by
    rw [Locale.ofPath?_path, catalog]
  have asStored : (package.putText InstallManifest.archivePath manifest).transformed
      (Locale.path locale name) = id := by
    funext data
    exact (expands.congr Package.transforms_put).transformed_catalog isCatalog
  rw [Package.get?_offerAll, asStored, Option.map_id, Package.putText,
    Package.get?_put_of_ne (ne_path_of_head (by decide)), absent, Option.none_or,
    Assoc.get?_append, get?_sourceFiles_top, Option.none_or]
  exact get?_flatMap_partFiles named member

-----------------------------------------------------------------------------------------
-- The default locale alone
-----------------------------------------------------------------------------------------

/-- However the base directory is written, a locale below it has the archive name of its part. -/
theorem archiveName_localeDirectory {config : BuildConfig} (isName : Locale.isName locale = true)
    : (config.localeDirectory locale).archiveName config.base
      = chromeName ++ "/" ++ (localePart config locale).1 := by
  have steps : (config.localeDirectory locale).components
      = config.base.components ++ [.entry "chrome", .entry "locale", .entry locale] := by
    rw [BuildConfig.localeDirectory, BuildConfig.localesDirectory, BuildConfig.chromeDirectory,
      DiskPath.components_append_name (Locale.isEntryName_of_isName isName),
      DiskPath.components_append_name (by decide), DiskPath.components_append_name (by decide),
      List.append_assoc, List.append_assoc]
    rfl
  rw [DiskPath.archiveName_of_components steps, ← String.toList_inj, localePart, chromeName]
  simp [Text.join, DiskPath.Component.text, List.intercalate]

/-- The files that the directory of the default locale offers. -/
def defaultFiles (tree : FileTree) (params : BuildParams) (filter : PathFilter)
    : List (String × ByteArray) :=
  let directory := params.config.localeDirectory params.config.defaultLocale
  if tree.isDirectory directory then
    filter.sourceFiles tree directory (directory.archiveName params.config.base) []
  else
    []

/-- The package with the default locale alone has the files of its directory and what is imported for
the locale.
-/
theorem importLocales_of_scratch {alone : Package}
    (done : Locale.References.scratch tree params filter = .ok alone)
    : MessageBundle.importLocales tree params.metadata [params.config.defaultLocale]
        ((Package.empty filter).offerAll (defaultFiles tree params filter))
      = .ok alone := by
  unfold Locale.References.scratch at done
  simp only [defaultFiles] at done ⊢
  split at done
  · rename_i isDirectory
    obtain ⟨read, readDone, imported⟩ := exists_of_bind_eq_ok done
    rw [if_pos isDirectory, ← imported, Package.eq_offerAll_of_read readDone]
    rfl
  · rename_i missing
    rw [if_neg missing]
    exact done

/-- For a locale with a proper name, that is what the part of the locale offers. -/
theorem defaultFiles_eq_partFiles (isName : Locale.isName params.config.defaultLocale = true)
    : defaultFiles tree params filter
      = partFiles tree filter (localePart params.config params.config.defaultLocale) := by
  rw [partFiles, ← archiveName_localeDirectory isName]
  rfl

/-- Under each path, the package with the default locale alone has the last imported file, or else the
one that the directory of the locale offers.
-/
theorem get?_scratch {alone : Package} {path : String}
    (done : Locale.References.scratch tree params filter = .ok alone)
    : alone.get? path
      = (Assoc.get? path (MessageBundle.localeFiles tree params.metadata
            params.config.defaultLocale).reverse).or
          (Assoc.get? path (defaultFiles tree params filter)) := by
  -- Nothing is transformed on the way, since the package starts without transforms.
  have start : (Package.empty filter).transformed path = id := rfl
  have offered : ((Package.empty filter).offerAll (defaultFiles tree params filter)).transformed path
      = id := by
    rw [Package.transformed_congr Package.transforms_offerAll, start]
  rw [MessageBundle.eq_putAll_of_importLocales (importLocales_of_scratch done),
    List.flatMap_singleton, Package.get?_putAll, Package.get?_offerAll, Package.get?_empty,
    Option.none_or, start, offered, Option.map_id, id_eq, id_eq]

/-- The package and the package with the default locale alone have the same catalogs of the
default locale once bundles are imported.
-/
theorem get?_imported_eq_scratch {gathered imported alone : Package} {format : CatalogFormat}
    (expands : package.OnlyExpandsManifests)
    (unmapped : params.metadata.items mappingSection = [])
    (named : ∀ other ∈ params.locales, Locale.isName other = true)
    (member : params.config.defaultLocale ∈ params.locales)
    (catalog : CatalogFormat.ofPath? name = some format)
    (absent : package.get? (Locale.path params.config.defaultLocale name) = none)
    (gather : gather tree params package = .ok gathered)
    (import' : MessageBundle.importLocales tree params.metadata params.locales gathered
      = .ok imported)
    (scratch : Locale.References.scratch tree params package.filter = .ok alone)
    : imported.get? (Locale.path params.config.defaultLocale name)
      = alone.get? (Locale.path params.config.defaultLocale name) := by
  obtain ⟨manifest, gatheredFiles⟩ := eq_offerAll_of_gather unmapped gather
  have gatheredExpands : gathered.OnlyExpandsManifests := by
    refine expands.congr ?_
    rw [gatheredFiles, Package.transforms_offerAll]
    rfl
  rw [MessageBundle.get?_importLocales gatheredExpands (FileKind.ofPath_path_ne catalog) named
      member import',
    get?_gather expands unmapped catalog named member absent gather, get?_scratch scratch,
    defaultFiles_eq_partFiles (named _ member)]

end AddonPackager.Build
