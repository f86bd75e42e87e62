import AddonPackager.Proofs.Build.FirstSource

/-! Where the files of a package come from. Before a package is signed, every path in it was
offered by a source of the build or generated by one of the steps that follow gathering.
-/

namespace AddonPackager

variable {tree : FileTree} {params : BuildParams} {config : BuildConfig} {filter : PathFilter}
  {package changed : Package} {path : String}

namespace Package

variable {allowed : String → Prop} {before middle after : Package} {data : ByteArray}
  {files : List (String × ByteArray)} {warnings : List Warning}

-----------------------------------------------------------------------------------------
-- Added paths
-----------------------------------------------------------------------------------------

/-- A change that adds files under allowed paths only, and keeps the setup of the package. -/
structure AddsOnly (allowed : String → Prop) (before after : Package) : Prop where
  filter : after.filter = before.filter
  transforms : after.transforms = before.transforms
  contains : ∀ path, after.contains path = true → before.contains path = true ∨ allowed path

theorem AddsOnly.refl : AddsOnly allowed package package :=
  ⟨rfl, rfl, fun _ => .inl⟩

theorem AddsOnly.trans (first : AddsOnly allowed before middle)
    (second : AddsOnly allowed middle after)
    : AddsOnly allowed before after where
  filter := second.filter.trans first.filter
  transforms := second.transforms.trans first.transforms
  contains path stored := (second.contains path stored).elim (first.contains path) .inr

/-- Storing a file adds at most its path. -/
theorem AddsOnly.put (adds : AddsOnly allowed before middle)
    (known : middle.contains path = true ∨ allowed path)
    : AddsOnly allowed before (middle.put path data) where
  filter := adds.filter
  transforms := adds.transforms
  contains other stored := by
    by_cases here : path = other
    · exact here ▸ known.elim (adds.contains path) .inr
    · rw [contains_iff, get?_put_of_ne here, ← contains_iff] at stored
      exact adds.contains other stored

/-- Storing files adds at most their paths, by induction on the files. -/
theorem AddsOnly.putAll (adds : AddsOnly allowed before middle)
    (areAllowed : ∀ path ∈ Assoc.names files, allowed path)
    : AddsOnly allowed before (middle.putAll files) := by
  induction files generalizing middle with
  | nil => exact adds
  | cons file rest ih =>
      rw [Assoc.names, List.map_cons, List.forall_mem_cons] at areAllowed
      exact ih (adds.put (.inr areAllowed.1)) areAllowed.2

theorem AddsOnly.warnAll (adds : AddsOnly allowed before middle)
    : AddsOnly allowed before (middle.warnAll warnings) := by
  rw [warnAll_eq]
  exact ⟨adds.filter, adds.transforms, adds.contains⟩

/-- Steps that each add allowed paths only do so together. -/
theorem addsOnly_foldl {β : Type} {step : Package → β → Package} {sources : List β}
    (each : ∀ package, ∀ source ∈ sources, AddsOnly allowed package (step package source))
    : AddsOnly allowed package (sources.foldl step package) :=
  List.foldlRecOn sources step .refl fun middle adds source member =>
    adds.trans (each middle source member)

theorem addsOnly_of_foldlM {β : Type} {step : Package → β → Except Failure Package}
    {sources : List β}
    (each : ∀ package changed, ∀ source ∈ sources, step package source = .ok changed →
      AddsOnly allowed package changed)
    (done : sources.foldlM step package = .ok after)
    : AddsOnly allowed package after :=
  invariant_of_foldlM AddsOnly.refl (fun middle next source member adds stepDone =>
    adds.trans (each middle next source member stepDone)) done

end Package

-----------------------------------------------------------------------------------------
-- Generated paths
-----------------------------------------------------------------------------------------

/-- A path of a file that the steps after gathering generate. -/
inductive Build.IsGenerated (tree : FileTree) (params : BuildParams) (filter : PathFilter)
    : String → Prop
  | imported {locale : String} {file : String × ByteArray} (packaged : locale ∈ params.locales)
      (listed : file ∈ MessageBundle.localeFiles tree params.metadata locale)
      : IsGenerated tree params filter file.1
  | completed {locale file : String} {alone : Package} (packaged : locale ∈ params.locales)
      (scratch : Locale.References.scratch tree params filter = .ok alone)
      (known : alone.contains (Locale.path params.config.defaultLocale file) = true)
      : IsGenerated tree params filter (Locale.path locale file)
  | required {module : String} (named : Script.IsModuleName module)
      : IsGenerated tree params filter (Bootstrap.modulePath module)
  | started : IsGenerated tree params filter Bootstrap.archivePath

open Build (IsGenerated)

theorem MessageBundle.addsOnly_importLocales
    (done : importLocales tree params.metadata params.locales package = .ok changed)
    : package.AddsOnly (IsGenerated tree params filter) changed := by
  rw [eq_putAll_of_importLocales done]
  refine Package.AddsOnly.refl.putAll ?_
  intro path listed
  obtain ⟨file, member, rfl⟩ := List.mem_map.mp listed
  obtain ⟨locale, packaged, inLocale⟩ := List.mem_flatMap.mp member
  exact .imported packaged inLocale

namespace Locale

/-- Merging a reference adds at most its file in the locale. -/
theorem References.addsOnly_mergeFile {locale : String} {entry : String × Catalog}
    {allowed : String → Prop} (isAllowed : allowed (Locale.path locale entry.1))
    : package.AddsOnly allowed (mergeFile locale package entry) := by
  rcases mergeFile_cases locale entry.1 entry.2 package with stored | ⟨-, warnings, warned⟩
  · exact stored ▸ Package.AddsOnly.refl.put (.inr isAllowed)
  · exact warned ▸ Package.AddsOnly.refl.warnAll

/-- Filling gaps adds files of packaged locales that the default locale has. -/
theorem addsOnly_fillGaps (done : fillGaps tree params package = .ok changed)
    : package.AddsOnly (IsGenerated tree params package.filter) changed := by
  obtain ⟨⟨references, warned⟩, collected, rfl⟩ := exists_of_map_eq_ok done
  obtain ⟨alone, warnings, scratch, rfl, rfl⟩ := References.exists_scratch_of_collect collected
  refine Package.AddsOnly.refl.warnAll.trans (Package.addsOnly_foldl ?_)
  intro package locale packaged
  refine Package.addsOnly_foldl ?_
  intro package entry listed
  obtain ⟨data, text, stored, -, -⟩ :=
    References.get?_ofFiles_iff.mp (Dict.mem_toList_iff.mp listed)
  exact References.addsOnly_mergeFile
    (.completed packaged scratch (Package.contains_iff.mpr ⟨data, stored⟩))

end Locale

/-- What a package lacks is added as modules and the start script. -/
theorem Bootstrap.addsOnly_addMissing (expands : package.OnlyExpandsManifests)
    (done : addMissing tree params package = .ok changed)
    : package.AddsOnly (IsGenerated tree params filter) changed := by
  rw [addMissing] at done
  split at done
  · cases done
    exact .refl
  · split at done
    · cases done
    · rename_i found inspected
      have modules : package.AddsOnly (IsGenerated tree params filter)
          (resolveModules tree params.config.moduleLibrary found package).2 := by
        cases params.config.moduleLibrary with
        | none => exact .refl
        | some library =>
            obtain ⟨added, pulls, result⟩ :=
              exists_pulls_of_inspect tree library expands inspected
            rw [result]
            refine Package.AddsOnly.refl.putAll ?_
            intro path listed
            obtain ⟨module, isAdded, rfl⟩ := List.mem_map.mp (names_moduleFiles ▸ listed)
            exact .required (pulls.isModuleName (fun _ wanted => wanted.isModuleName) isAdded)
      simp only at done
      split at done
      · cases done
        exact modules.put (.inr .started)
      · cases done

namespace Build

/-- A file that is rendered is in the package. -/
theorem addsOnly_renderTemplates {allowed : String → Prop}
    (done : renderTemplates params package = .ok changed)
    : package.AddsOnly allowed changed := by
  refine Package.addsOnly_of_foldlM ?_ done
  intro package changed path member rendered
  rw [Package.preprocessFile] at rendered
  split at rendered
  · rename_i text isTemplate
    cases rendered
    refine Package.AddsOnly.refl.put (.inl ?_)
    rw [Package.rendered] at isTemplate
    split at isTemplate
    · cases isTemplate
    · rename_i data stored
      exact Package.contains_iff.mpr ⟨data, stored⟩
  · cases rendered

-----------------------------------------------------------------------------------------
-- Whole builds
-----------------------------------------------------------------------------------------

variable {signer : Signature.Signer} {control : VersionControl} {built : Assembled}
  {warnings : List Warning}

theorem filter_gather_start
    (done : gather tree params (start filter params warnings) = .ok package)
    : package.filter = filter := by
  have same : package.conflictsOnly.filter
      = (start filter params warnings).conflictsOnly.filter := by
    rw [conflictsOnly_gather_start done, Package.filter_offerAll]
  exact same.trans filter_start

/-- A gathered package has offered paths only. -/
theorem exists_source_of_gather_start
    (done : gather tree params (start filter params warnings) = .ok package)
    (stored : package.contains path = true)
    : ∃ source ∈ sources tree params filter, path ∈ Assoc.names source := by
  obtain ⟨data, found⟩ := Package.contains_iff.mp stored
  rw [get?_gather_start done] at found
  obtain ⟨content, offered, -⟩ := Option.map_eq_some_iff.mp found
  obtain ⟨source, member, listed⟩ := List.mem_flatten.mp (Assoc.mem_of_get? offered)
  exact ⟨source, member, List.mem_map.mpr ⟨_, listed, rfl⟩⟩

/-- A path that a source of the build offers or that a step generates. -/
def IsOrigin (tree : FileTree) (params : BuildParams) (filter : PathFilter) (path : String)
    : Prop :=
  (∃ source ∈ sources tree params filter, path ∈ Assoc.names source)
  ∨ IsGenerated tree params filter path

namespace Steps

variable (steps : Steps signer tree config control built)

include steps

/-- Until the gaps are filled, generated paths are added to what was gathered. -/
theorem addsOnly_completed
    : steps.gathered.AddsOnly (IsGenerated tree built.params steps.filter) steps.completed := by
  have importAdds
      : steps.gathered.AddsOnly (IsGenerated tree built.params steps.filter) steps.imported :=
    MessageBundle.addsOnly_importLocales steps.importDone
  have importFilter := importAdds.filter.trans (filter_gather_start steps.gatherDone)
  exact importAdds.trans (importFilter ▸ Locale.addsOnly_fillGaps steps.fallbackDone)

theorem onlyExpandsManifests_completed : steps.completed.OnlyExpandsManifests := by
  intro transform member
  rw [steps.addsOnly_completed.transforms, transforms_gather_start steps.gatherDone] at member
  exact ⟨built.params.locales, List.mem_singleton.mp member⟩

theorem addsOnly_rendered
    : steps.completed.AddsOnly (IsGenerated tree built.params steps.filter) steps.rendered :=
  (Bootstrap.addsOnly_addMissing steps.onlyExpandsManifests_completed steps.runnableDone).trans
    (addsOnly_renderTemplates steps.renderedDone)

/-- Whatever is checked was offered or generated. -/
theorem isOrigin_of_contains (stored : steps.rendered.contains path = true)
    : IsOrigin tree built.params steps.filter path :=
  ((steps.addsOnly_completed.trans steps.addsOnly_rendered).contains path stored).imp_left
    (exists_source_of_gather_start steps.gatherDone)

end Steps

/-- A build signs a package of offered and generated paths. -/
theorem exists_unsigned_of_assemble (done : assemble signer tree config control = .ok built)
    : ∃ filter unsigned,
        PathFilter.forPackage tree config.base = .ok filter
        ∧ built.params.config = config
        ∧ unsigned.OnlyExpandsManifests
        ∧ (∀ path, unsigned.contains path = true → IsOrigin tree built.params filter path)
        ∧ signed signer tree config.keyFile unsigned = .ok built.package := by
  obtain ⟨steps⟩ := nonempty_steps_of_assemble done
  exact ⟨steps.filter, steps.rendered, steps.filterDone, steps.config_eq,
    steps.onlyExpandsManifests_completed.congr steps.addsOnly_rendered.transforms,
    fun _ => steps.isOrigin_of_contains, steps.signed_rendered⟩

end Build

end AddonPackager
