import AddonPackager.Proofs.Bootstrap.Resolution
import AddonPackager.Proofs.Build.Sources
import AddonPackager.Proofs.Build.Steps

/-! What the steps of a build keep. Nothing that follows gathering replaces what was gathered,
except for the catalogs of packaged locales, templates and the files of a signature, and none of it
reports a conflict.
-/

namespace AddonPackager

variable {tree : FileTree} {params : BuildParams} {config : BuildConfig}
  {package changed alone : Package} {path : String} {settled : String → Prop}

-----------------------------------------------------------------------------------------
-- Contributors
-----------------------------------------------------------------------------------------

/-- Gathering contributors warns about their options only, by induction on the options. -/
theorem Contributor.kind_of_foldlM_gather {items : List MetadataItem} {gathered result : Gathered}
    (start : ∀ warning ∈ gathered.warnings, warning.kind ≠ .conflict)
    (done : items.foldlM (gather tree) gathered = .ok result)
    : ∀ warning ∈ result.warnings, warning.kind ≠ .conflict := by
  induction items generalizing gathered with
  | nil =>
      cases done
      exact start
  | cons item rest ih =>
      rw [List.foldlM_cons] at done
      obtain ⟨next, first, later⟩ := exists_of_bind_eq_ok done
      refine ih ?_ later
      rw [gather] at first
      split at first
      · cases first
        exact start
      · obtain ⟨names, -, rfl⟩ := exists_of_map_eq_ok first
        exact start
      · cases first
        intro warning member
        rcases List.mem_append.mp member with before | here
        · exact start warning before
        · rw [List.mem_singleton.mp here]
          simp [Warning.unrecognizedContributor]

/-- What a build finds out at its start comes without conflicts. -/
theorem BuildParams.kind_of_read {control : VersionControl} {warnings : List Warning}
    (read : BuildParams.read tree config control = .ok (params, warnings))
    : ∀ warning ∈ warnings, warning.kind ≠ .conflict := by
  obtain ⟨gathered, done, same⟩ := exists_of_map_eq_ok (read_eq_ok_iff.mp read).contributorsRead
  obtain ⟨-, rfl⟩ := Prod.mk.inj same
  exact Contributor.kind_of_foldlM_gather (by simp) done

-----------------------------------------------------------------------------------------
-- Catalogs
-----------------------------------------------------------------------------------------

/-- A path of a catalog below one of some locales. -/
def Locale.IsCatalogPath (locales : List String) (path : String) : Prop :=
  ∃ locale ∈ locales, ∃ file,
    path = Locale.path locale file ∧ (CatalogFormat.ofPath? path).isSome = true

/-- Importing bundles stores catalogs only. -/
theorem MessageBundle.keeps_importLocales {metadata : Metadata} {locales : List String}
    (free : ∀ path, settled path → ¬ Locale.IsCatalogPath locales path)
    (done : importLocales tree metadata locales package = .ok changed)
    : package.Keeps settled changed := by
  rw [eq_putAll_of_importLocales done]
  refine Package.Keeps.refl.putAll ?_
  intro path listed isSettled
  obtain ⟨entry, member, rfl⟩ := List.mem_map.mp listed
  obtain ⟨locale, localeMember, inLocale⟩ := List.mem_flatMap.mp member
  obtain ⟨stem, here⟩ := exists_path_of_mem_localeFiles inLocale
  refine absurd ⟨locale, localeMember, _, here, ?_⟩ (free _ isSettled)
  rw [here, Locale.ofPath?_path, CatalogFormat.ofPath?_append_properties]
  rfl

namespace Locale.References

variable {references : References} {locale : String} {locales : List String}

/-- Merging a reference stores a catalog, if anything, and warns about malformed catalogs only. -/
theorem keeps_mergeFile {entry : String × Catalog}
    (free : settled (Locale.path locale entry.1) → False)
    : package.Keeps settled (mergeFile locale package entry) := by
  have put {data : ByteArray}
      : package.Keeps settled (package.put (Locale.path locale entry.1) data) :=
    Package.Keeps.refl.put fun isSettled => (free isSettled).elim
  rw [mergeFile]
  split
  · exact put
  · split
    · rw [mergeCatalog]
      split
      · exact Package.Keeps.refl.warn (by simp [Warning.malformed])
      · exact .refl
      · simp only
        split
        · exact .refl
        · exact put
    · exact Package.Keeps.refl.warn (by simp [Warning.catalogNotText, Warning.malformed])

theorem keeps_mergeInto (parsed : references.Parsed)
    (free : ∀ path, settled path → ¬ Locale.IsCatalogPath locales path)
    : package.Keeps settled (references.mergeInto locales package) := by
  refine Package.keeps_foldl ?_
  intro package locale localeMember
  refine Package.keeps_foldl ?_
  intro package entry entryMember
  refine keeps_mergeFile fun isSettled => free _ isSettled ⟨locale, localeMember, entry.1, rfl, ?_⟩
  obtain ⟨source, read⟩ := parsed entry.1 entry.2 (Dict.mem_toList_iff.mp entryMember)
  rw [ofPath?_path, Catalog.format_of_parse read]
  rfl

theorem nodup_names_defaultFiles {filter : PathFilter}
    : (Assoc.names (Build.defaultFiles tree params filter)).Nodup := by
  simp only [Build.defaultFiles]
  split
  · exact PathFilter.nodup_names_sourceFiles
  · exact .nil

theorem admits_of_mem_defaultFiles {filter : PathFilter} {file : String × ByteArray}
    (member : file ∈ Build.defaultFiles tree params filter)
    : filter.admits file.1 = true := by
  simp only [Build.defaultFiles] at member
  split at member
  · rename_i isDirectory
    exact PathFilter.admits_of_mem_sourceFiles isDirectory member
  · cases member

/-- A path of the package with the default locale alone stands in the directory of the locale or is
imported for it.
-/
theorem mem_names_of_scratch {filter : PathFilter} (done : scratch tree params filter = .ok alone)
    (stored : alone.contains path = true)
    : path ∈ Assoc.names (Build.defaultFiles tree params filter)
      ∨ path ∈ Assoc.names
          (MessageBundle.localeFiles tree params.metadata params.config.defaultLocale) := by
  rw [Package.contains_iff] at stored
  obtain ⟨data, found⟩ := stored
  rw [Build.get?_scratch done, Option.or_eq_some_iff] at found
  rcases found with imported | ⟨-, read⟩
  · exact .inr (List.mem_map.mpr ⟨_, List.mem_reverse.mp (Assoc.mem_of_get? imported), rfl⟩)
  · exact .inl (List.mem_map.mpr ⟨_, Assoc.mem_of_get? read, rfl⟩)

/-- The package with the default locale alone has no warnings: its files come from one directory and
from imports, so none of them is in the way of another.
-/
theorem warnings_scratch {filter : PathFilter} (done : scratch tree params filter = .ok alone)
    : alone.warnings = [] := by
  have offered : ((Package.empty filter).offerAll (Build.defaultFiles tree params filter)).warnings
      = [] ++ (Package.repeated [] (Assoc.names (Build.defaultFiles tree params filter))).map
          Warning.conflict :=
    Package.warnings_offerAll (by simp [Package.contains_iff])
  rw [Package.repeated_of_nodup nodup_names_defaultFiles (by simp)] at offered
  rw [MessageBundle.eq_putAll_of_importLocales (Build.importLocales_of_scratch done),
    Package.warnings_putAll, offered]
  rfl

theorem kind_of_mem_ofFiles {files : List (String × ByteArray)} {warning : Warning}
    (member : warning ∈ (ofFiles locale files).2)
    : warning.kind ≠ .conflict := by
  rw [warnings_ofFiles] at member
  obtain ⟨file, -, here⟩ := List.mem_flatMap.mp member
  exact reports_inspect.kind_ne_conflict warning here

/-- Collecting references warns about catalogs only. -/
theorem keeps_collect {references : References}
    (done : collect tree params package = .ok (references, changed))
    : package.Keeps settled changed := by
  obtain ⟨alone, -, scratched, -, -⟩ := exists_scratch_of_collect done
  have collected := collect_of_scratch scratched
  rw [done, warnings_scratch scratched, Except.ok.injEq, Prod.mk.injEq] at collected
  obtain ⟨-, rfl⟩ := collected
  exact Package.Keeps.refl.warnAll fun warning => kind_of_mem_ofFiles

end Locale.References

/-- Filling the gaps of locales stores catalogs only. -/
theorem Locale.keeps_fillGaps
    (free : ∀ path, settled path → ¬ IsCatalogPath params.locales path)
    (done : fillGaps tree params package = .ok changed)
    : package.Keeps settled changed := by
  obtain ⟨⟨references, warned⟩, collected, rfl⟩ := exists_of_map_eq_ok done
  obtain ⟨alone, warnings, -, rfl, -⟩ := References.exists_scratch_of_collect collected
  exact (References.keeps_collect collected).trans
    (References.keeps_mergeInto References.parsed_ofFiles free)

-----------------------------------------------------------------------------------------
-- Later steps
-----------------------------------------------------------------------------------------

/-- Missing files are added where nothing is. -/
theorem Bootstrap.keeps_addMissing (expands : package.OnlyExpandsManifests)
    (done : addMissing tree params package = .ok changed)
    : package.Keeps settled changed := by
  rw [addMissing] at done
  split at done
  · cases done
    exact .refl
  · rename_i absent
    split at done
    · simp at done
    · rename_i found inspected
      have modules : package.Keeps settled
          (resolveModules tree params.config.moduleLibrary found package).2 := by
        cases params.config.moduleLibrary with
        | none => exact .refl
        | some library =>
            obtain ⟨added, pulls, result⟩ :=
              exists_pulls_of_inspect tree library expands inspected
            rw [result]
            refine Package.Keeps.refl.putAll ?_
            rintro path listed -
            obtain ⟨module, isAdded, rfl⟩ := List.mem_map.mp (names_moduleFiles ▸ listed)
            exact Package.contains_eq_false_iff.mpr (pulls.absent isAdded)
      simp only at done
      split at done
      · cases done
        exact modules.put fun _ => Bool.eq_false_iff.mpr absent
      · simp at done

namespace Build

theorem keeps_renderTemplates
    (free : ∀ path, settled path → path ∉ (params.metadata.items preprocessSection).map (·.key))
    (done : renderTemplates params package = .ok changed)
    : package.Keeps settled changed := by
  refine Package.keeps_of_foldlM ?_ done
  intro package changed path member rendered
  rw [Package.preprocessFile] at rendered
  split at rendered
  · cases rendered
    exact Package.Keeps.refl.put fun isSettled => absurd member (free path isSettled)
  · cases rendered

/-- The files that signing stores. -/
def signaturePaths : List String :=
  [Signature.manifestPath, Signature.signatureFilePath, Archive.signatureBlockPath]

theorem keeps_signed {signer : Signature.Signer} {keyFile : Option DiskPath}
    (free : ∀ path, settled path → path ∉ signaturePaths)
    (done : signed signer tree keyFile package = .ok changed)
    : package.Keeps settled changed := by
  have apart {path : String} (member : path ∈ signaturePaths) (isSettled : settled path)
      : package.contains path = false :=
    absurd member (free path isSettled)
  unfold signed at done
  split at done
  · rw [Signature.sign] at done
    split at done
    · simp at done
    · simp only at done
      split at done
      · simp at done
      · cases done
        exact ((Package.Keeps.refl.put (apart (by decide))).put (apart (by decide))).put
          (apart (by decide))
  · cases done
    exact .refl

/-- Everything that follows gathering keeps what was gathered, except for catalogs of packaged
locales, templates and the files that signing stores.
-/
def IsSettled (params : BuildParams) (path : String) : Prop :=
  ¬ Locale.IsCatalogPath params.locales path
  ∧ path ∉ (params.metadata.items preprocessSection).map (·.key)
  ∧ path ∉ signaturePaths

theorem Steps.keeps {signer : Signature.Signer} {control : VersionControl} {built : Assembled}
    (steps : Steps signer tree config control built)
    (expands : steps.gathered.OnlyExpandsManifests)
    : steps.gathered.Keeps (IsSettled built.params) built.package := by
  have locales : steps.gathered.Keeps (IsSettled built.params) steps.completed :=
    (MessageBundle.keeps_importLocales (fun _ isSettled => isSettled.1) steps.importDone).trans
      (Locale.keeps_fillGaps (fun _ isSettled => isSettled.1) steps.fallbackDone)
  have missing : steps.completed.Keeps (IsSettled built.params) steps.runnable :=
    Bootstrap.keeps_addMissing (expands.congr locales.transforms) steps.runnableDone
  have templates : steps.runnable.Keeps (IsSettled built.params) steps.rendered :=
    keeps_renderTemplates (fun _ isSettled => isSettled.2.1) steps.renderedDone
  have signatures : steps.rendered.Keeps (IsSettled built.params) built.package :=
    keeps_signed (fun _ isSettled => isSettled.2.2) steps.signed_rendered
  exact ((locales.trans missing).trans templates).trans signatures

end Build

end AddonPackager
