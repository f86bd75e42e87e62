import AddonPackager.Proofs.Build.Gathering
import AddonPackager.Proofs.Package.Offering
import AddonPackager.Proofs.Package.Walking

/-! Gathering as a run of offers. The install manifest, the mapped files, the directory of the
add-on and the parts of its chrome directory offer their files one source after the other.
-/

namespace AddonPackager.Build

variable {tree : FileTree} {params : BuildParams} {package changed : Package}
  {filter : PathFilter} {item : MetadataItem} {items : List MetadataItem}
  {source : List (String × ByteArray)} {path : String}

-----------------------------------------------------------------------------------------
-- Mapped files
-----------------------------------------------------------------------------------------

/-- The files that a mapping offers. -/
def mappedFiles (tree : FileTree) (filter : PathFilter) (item : MetadataItem)
    : List (String × ByteArray) :=
  if Package.isMapped filter item.key then
    filter.sourceFiles tree (Package.mappedSource item) item.key []
  else
    []

/-- Reading a mapping offers its files, a warning about a missing source apart. -/
theorem conflictsOnly_readMappedItem
    : (package.readMappedItem tree item).conflictsOnly
      = package.conflictsOnly.offerAll (mappedFiles tree package.filter item) := by
  rw [Package.readMappedItem, mappedFiles]
  split
  · cases read : package.read tree (Package.mappedSource item) item.key [] with
    | ok changed =>
        rw [Package.eq_offerAll_of_read read]
        exact Package.conflictsOnly_offerAll
    | error failure =>
        have missing : tree.lookup? (Package.mappedSource item) = none := by
          rw [Package.read] at read
          split at read
          · cases read
          · cases read
          · assumption
        rw [PathFilter.sourceFiles, missing]
        exact Package.conflictsOnly_warn (by simp [Warning.missingSource])
  · rfl

theorem filter_readMappedItem : (package.readMappedItem tree item).filter = package.filter := by
  have same : (package.readMappedItem tree item).conflictsOnly.filter
      = (package.conflictsOnly.offerAll (mappedFiles tree package.filter item)).filter :=
    congrArg Package.filter conflictsOnly_readMappedItem
  rw [Package.filter_offerAll] at same
  exact same

/-- Reading mappings offers their files in order, by induction on the mappings. -/
theorem conflictsOnly_readMapped
    : (package.readMapped tree items).conflictsOnly
      = package.conflictsOnly.offerAll (items.flatMap (mappedFiles tree package.filter)) := by
  induction items generalizing package with
  | nil => rfl
  | cons item rest ih =>
      rw [Package.readMapped, List.foldl_cons, ← Package.readMapped, ih, filter_readMappedItem,
        conflictsOnly_readMappedItem, List.flatMap_cons, Package.offerAll_append]

theorem filter_readMapped : (package.readMapped tree items).filter = package.filter := by
  have same : (package.readMapped tree items).conflictsOnly.filter
      = (package.conflictsOnly.offerAll
          (items.flatMap (mappedFiles tree package.filter))).filter :=
    congrArg Package.filter conflictsOnly_readMapped
  rw [Package.filter_offerAll] at same
  exact same

-----------------------------------------------------------------------------------------
-- All sources
-----------------------------------------------------------------------------------------

/-- The files that the sources of a build offer, source by source: the install manifest, the
mappings, the directory of the add-on without its chrome directory, and the parts of that.
-/
def sources (tree : FileTree) (params : BuildParams) (filter : PathFilter)
    : List (List (String × ByteArray)) :=
  [(InstallManifest.archivePath, (InstallManifest.create tree params).toUTF8)]
    :: (params.metadata.items mappingSection).map (mappedFiles tree filter)
    ++ filter.sourceFiles tree params.config.base "" [chromeName]
    :: (params.config.chromeParts params.locales).map (partFiles tree filter)

/-- Gathering the files of an add-on offers what its sources have, one after the other. -/
theorem conflictsOnly_gather (absent : package.get? InstallManifest.archivePath = none)
    (done : gather tree params package = .ok changed)
    : changed.conflictsOnly
      = package.conflictsOnly.offerAll (sources tree params package.filter).flatten := by
  unfold gather at done
  obtain ⟨read, baseDone, partsDone⟩ := exists_of_bind_eq_ok done
  generalize manifest : (InstallManifest.create tree params).toUTF8 = manifestData at *
  have described : (package.putText InstallManifest.archivePath
        (InstallManifest.create tree params)).conflictsOnly
      = package.conflictsOnly.offerAll [(InstallManifest.archivePath, manifestData)] := by
    rw [← Package.conflictsOnly_offerAll, Package.putText, manifest,
      ← Package.offer_of_absent absent]
    rfl
  have parts := Package.eq_offerAll_of_foldlM eq_offerAll_of_gatherPart partsDone
  have base := Package.eq_offerAll_of_read baseDone
  rw [base, Package.filter_offerAll, filter_readMapped, Package.putText, Package.filter_put]
    at parts
  have offered : (sources tree params package.filter).flatten
      = [(InstallManifest.archivePath, manifestData)]
        ++ (params.metadata.items mappingSection).flatMap (mappedFiles tree package.filter)
        ++ package.filter.sourceFiles tree params.config.base "" [chromeName]
        ++ (params.config.chromeParts params.locales).flatMap (partFiles tree package.filter) := by
    simp only [sources, manifest, List.flatten_append, List.flatten_cons, List.flatMap_def,
      List.append_assoc]
  rw [offered, parts, Package.conflictsOnly_offerAll, Package.conflictsOnly_offerAll,
    conflictsOnly_readMapped, ← Package.putText, described, Package.offerAll_append,
    Package.offerAll_append, Package.offerAll_append]
  rfl

theorem mem_sources_iff
    : source ∈ sources tree params filter
      ↔ source = [(InstallManifest.archivePath, (InstallManifest.create tree params).toUTF8)]
        ∨ (∃ item ∈ params.metadata.items mappingSection, source = mappedFiles tree filter item)
        ∨ source = filter.sourceFiles tree params.config.base "" [chromeName]
        ∨ ∃ part ∈ params.config.chromeParts params.locales,
            source = partFiles tree filter part := by
  simp only [sources, List.cons_append, List.mem_cons, List.mem_append, List.mem_map, eq_comm]

/-- A source offers every path once. -/
theorem nodup_names_of_mem_sources (member : source ∈ sources tree params filter)
    : (Assoc.names source).Nodup := by
  rcases mem_sources_iff.mp member with rfl | ⟨item, -, rfl⟩ | rfl | ⟨part, -, rfl⟩
  · simp
  · rw [mappedFiles]
    split
    · exact PathFilter.nodup_names_sourceFiles
    · exact .nil
  · exact PathFilter.nodup_names_sourceFiles
  · rw [partFiles]
    split
    · exact PathFilter.nodup_names_sourceFiles
    · exact .nil

/-- Sources offer admitted paths and paths without a slash. -/
theorem offered_cases (member : source ∈ sources tree params filter)
    (offered : path ∈ Assoc.names source)
    : '/' ∉ path.toList ∨ filter.admits path = true := by
  obtain ⟨file, listed, rfl⟩ := List.mem_map.mp offered
  rcases mem_sources_iff.mp member with rfl | ⟨item, -, rfl⟩ | rfl | ⟨part, -, rfl⟩
  · rw [List.mem_singleton.mp listed]
    exact .inl (show '/' ∉ InstallManifest.archivePath.toList by decide)
  · rw [mappedFiles] at listed
    split at listed
    · rename_i mapped
      rcases PathFilter.mem_sourceFiles_cases listed with ⟨here, -⟩ | ⟨-, admits⟩
      · rw [here]
        simpa [Package.isMapped] using mapped
      · exact .inr admits
    · simp at listed
  · rcases PathFilter.mem_sourceFiles_cases listed with ⟨here, -⟩ | ⟨-, admits⟩
    · rw [here]
      exact .inl (by decide)
    · exact .inr admits
  · rw [partFiles] at listed
    split at listed
    · rename_i isDirectory
      exact .inr (PathFilter.admits_of_mem_sourceFiles isDirectory listed)
    · simp at listed

end AddonPackager.Build
