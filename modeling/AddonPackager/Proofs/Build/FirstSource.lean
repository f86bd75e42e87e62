import AddonPackager.Proofs.Build.Keeping
import AddonPackager.Proofs.Build.LocaleFallback

/-! The first source of a path wins over a whole build, and every later offer of the path is
reported.
-/

namespace AddonPackager.Build

variable {tree : FileTree} {config : BuildConfig} {params : BuildParams} {filter : PathFilter}
  {package : Package} {source : List (String × ByteArray)} {path : String}
  {content : ByteArray} {offers : List (List (String × ByteArray))}

-----------------------------------------------------------------------------------------
-- Offered paths
-----------------------------------------------------------------------------------------

/-- No source offers a file that signing stores. -/
theorem not_mem_signaturePaths (filtered : PathFilter.forPackage tree config.base = .ok filter)
    (member : source ∈ sources tree params filter) (offered : path ∈ Assoc.names source)
    : path ∉ signaturePaths := by
  intro signature
  have start : (PathFilter.segments path).head? = some "META-INF" ∧ '/' ∈ path.toList := by
    simp only [signaturePaths, List.mem_cons, List.not_mem_nil, or_false] at signature
    rcases signature with rfl | rfl | rfl <;> decide
  rcases offered_cases member offered with plain | admits
  · exact plain start.2
  · rw [PathFilter.forPackage] at filtered
    split at filtered
    · rename_i entries listed
      cases filtered
      rw [PathFilter.admits, Bool.and_eq_true, start.1] at admits
      have included : "META-INF" ∈ PathFilter.packageEntries
          ++ (Assoc.names entries).filter fun name =>
            Text.endsWith name ".js" || Text.endsWith name ".xml" := by
        simpa [PathFilter.ofEntries] using admits.1
      rcases List.mem_append.mp included with fixed | extra
      · exact absurd fixed (by decide)
      · exact absurd (List.mem_filter.mp extra).2 (by decide)
    · cases filtered

/-- A source offers a path, and no source before it does. -/
def IsFirstOffer (offers : List (List (String × ByteArray))) (path : String) (content : ByteArray)
    : Prop :=
  ∃ before source after,
    offers = before ++ source :: after
    ∧ (∀ earlier ∈ before, path ∉ Assoc.names earlier)
    ∧ (path, content) ∈ source

/-- The first offer of a path is what a lookup finds among all offers. -/
theorem IsFirstOffer.get?_flatten (first : IsFirstOffer offers path content)
    (distinct : ∀ source ∈ offers, (Assoc.names source).Nodup)
    : Assoc.get? path offers.flatten = some content := by
  obtain ⟨before, source, after, rfl, none, member⟩ := first
  have notBefore : Assoc.get? path before.flatten = Option.none := by
    rw [Assoc.get?_eq_none_iff]
    intro listed
    obtain ⟨file, inBefore, rfl⟩ := List.mem_map.mp listed
    obtain ⟨earlier, earlierMember, offered⟩ := List.mem_flatten.mp inBefore
    exact none earlier earlierMember (List.mem_map.mpr ⟨file, offered, rfl⟩)
  have here : Assoc.get? path source = some content :=
    Assoc.get?_of_mem (distinct source (by simp)) member
  rw [List.flatten_append, List.flatten_cons, Assoc.get?_append, Assoc.get?_append, notBefore,
    here]
  rfl

-----------------------------------------------------------------------------------------
-- Whole builds
-----------------------------------------------------------------------------------------

section

variable {warnings : List Warning} {gathered : Package}

theorem filter_start : (start filter params warnings).filter = filter := by
  rw [start, Package.warnAll_eq]
  rfl

theorem transforms_start
    : (start filter params warnings).transforms = [Locale.expandManifest params.locales] := by
  rw [start, Package.transforms_warnAll]
  rfl

/-- From the start of a build, gathering offers what the sources have. -/
theorem conflictsOnly_gather_start
    (done : gather tree params (start filter params warnings) = .ok gathered)
    : gathered.conflictsOnly
      = (start filter params warnings).conflictsOnly.offerAll
          (sources tree params filter).flatten := by
  have offered := conflictsOnly_gather get?_start done
  rw [filter_start] at offered
  exact offered

theorem transforms_gather_start
    (done : gather tree params (start filter params warnings) = .ok gathered)
    : gathered.transforms = [Locale.expandManifest params.locales] := by
  have same : gathered.conflictsOnly.transforms
      = (start filter params warnings).conflictsOnly.transforms := by
    rw [conflictsOnly_gather_start done, Package.transforms_offerAll]
  exact same.trans transforms_start

/-- A gathered package holds the first offer of every path. -/
theorem get?_gather_start
    (done : gather tree params (start filter params warnings) = .ok gathered)
    : gathered.get? path
      = (Assoc.get? path (sources tree params filter).flatten).map
          (Locale.expandManifest params.locales path) := by
  have same : gathered.conflictsOnly.get? path
      = ((start filter params warnings).conflictsOnly.get? path).or
          ((Assoc.get? path (sources tree params filter).flatten).map
            ((start filter params warnings).conflictsOnly.transformed path)) := by
    rw [conflictsOnly_gather_start done, Package.get?_offerAll]
  have absent : (start filter params warnings).conflictsOnly.get? path = none := get?_start
  have expanded : (start filter params warnings).conflictsOnly.transformed path
      = Locale.expandManifest params.locales path := by
    have alone : (start filter params warnings).conflictsOnly.transforms
        = [Locale.expandManifest params.locales] :=
      transforms_start
    funext data
    rw [Package.transformed, alone]
    rfl
  rw [absent, expanded, Option.none_or] at same
  exact same

/-- The conflicts of a gathered package are the later offers of paths. -/
theorem conflicts_gather_start (noConflict : ∀ warning ∈ warnings, warning.kind ≠ .conflict)
    (done : gather tree params (start filter params warnings) = .ok gathered)
    : gathered.conflicts
      = (Package.repeated [] ((sources tree params filter).flatMap Assoc.names)).map
          Warning.conflict := by
  have none : (start filter params warnings).conflicts = [] := by
    rw [start, Package.conflicts_warnAll noConflict]
    rfl
  have unknown : ∀ path,
      (start filter params warnings).conflictsOnly.contains path = true ↔ path ∈ [] := by
    intro path
    have absent : (start filter params warnings).conflictsOnly.get? path = .none := get?_start
    simp [Package.contains_iff, absent]
  have same : gathered.conflictsOnly.warnings
      = (start filter params warnings).conflicts
        ++ (Package.repeated [] (Assoc.names (sources tree params filter).flatten)).map
            Warning.conflict := by
    rw [conflictsOnly_gather_start done, Package.warnings_offerAll unknown]
    rfl
  have names : Assoc.names (sources tree params filter).flatten
      = (sources tree params filter).flatMap Assoc.names := by
    rw [Assoc.names, List.map_flatten, List.flatMap_def]
    rfl
  rw [none, names] at same
  exact same

end

namespace Steps

variable {signer : Signature.Signer} {control : VersionControl} {built : Assembled}
  (steps : Steps signer tree config control built)

include steps

theorem onlyExpandsManifests_gathered : steps.gathered.OnlyExpandsManifests := by
  intro transform member
  rw [transforms_gather_start steps.gatherDone] at member
  exact ⟨built.params.locales, List.mem_singleton.mp member⟩

theorem gathered_contains_of_mem_sources
    (member : source ∈ sources tree built.params steps.filter)
    (offered : path ∈ Assoc.names source)
    : steps.gathered.contains path = true := by
  have listed : path ∈ Assoc.names (sources tree built.params steps.filter).flatten := by
    obtain ⟨file, fileMember, rfl⟩ := List.mem_map.mp offered
    exact List.mem_map.mpr ⟨file, List.mem_flatten.mpr ⟨source, member, fileMember⟩, rfl⟩
  obtain ⟨content, found⟩ := Option.isSome_iff_exists.mp (Assoc.isSome_get?_iff.mpr listed)
  refine Package.contains_iff.mpr ⟨Locale.expandManifest built.params.locales path content, ?_⟩
  rw [get?_gather_start steps.gatherDone, found]
  rfl

/-- Whatever a source offers is packaged. -/
theorem contains_of_mem_sources (member : source ∈ sources tree built.params steps.filter)
    (offered : path ∈ Assoc.names source)
    : built.package.contains path = true :=
  (steps.keeps steps.onlyExpandsManifests_gathered).contains path
    (steps.gathered_contains_of_mem_sources member offered)

end Steps

/-- The first source of a path wins over a whole build: whatever a source offers is packaged, with
the content that the first source of its path has, unless it is a catalog of a packaged locale or a
template. The conflicts of the build are the later offers of paths, in order.
-/
theorem firstSource_of_assemble {signer : Signature.Signer} {control : VersionControl}
    {built : Assembled} (done : assemble signer tree config control = .ok built)
    : ∃ filter,
        PathFilter.forPackage tree config.base = .ok filter
        ∧ (∀ source ∈ sources tree built.params filter, ∀ path ∈ Assoc.names source,
            built.package.contains path = true)
        ∧ (∀ path content,
            IsFirstOffer (sources tree built.params filter) path content →
            ¬ Locale.IsCatalogPath built.params.locales path →
            path ∉ (built.params.metadata.items preprocessSection).map (·.key) →
            built.package.get? path
              = some (Locale.expandManifest built.params.locales path content))
        ∧ built.package.conflicts
          = (Package.repeated []
              ((sources tree built.params filter).flatMap Assoc.names)).map Warning.conflict := by
  obtain ⟨steps⟩ := nonempty_steps_of_assemble done
  have keeps := steps.keeps steps.onlyExpandsManifests_gathered
  refine ⟨steps.filter, steps.filterDone, ?_, ?_, ?_⟩
  · exact fun source member path => steps.contains_of_mem_sources member
  · intro path content first noCatalog noTemplate
    have found := first.get?_flatten fun source => nodup_names_of_mem_sources
    obtain ⟨before, source, after, split, -, member⟩ := first
    have isSource : source ∈ sources tree built.params steps.filter := by
      simp [split]
    have offered : path ∈ Assoc.names source := List.mem_map.mpr ⟨_, member, rfl⟩
    have settled : IsSettled built.params path :=
      ⟨noCatalog, noTemplate, not_mem_signaturePaths steps.filterDone isSource offered⟩
    rw [keeps.get? path settled (steps.gathered_contains_of_mem_sources isSource offered),
      get?_gather_start steps.gatherDone, found]
    rfl
  · exact keeps.conflicts.trans
      (conflicts_gather_start (BuildParams.kind_of_read steps.paramsDone) steps.gatherDone)

/-- A project whose metadata maps a file over one of its own. -/
def mappedProject : Entries :=
  Entries.set "bootstrap.js" (.file .empty)
    (Entries.set "lib" (.directory (directoryOf "a.js" "disk"))
      (Entries.set "own.txt" (.file "mapped".toUTF8)
        (directoryOf "metadata.gecko"
          "[general]\nbasename=t\nid=t@t\nversion=1\n[mapping]\nlib/a.js=own.txt\n")))

theorem wellFormed_mappedProject : mappedProject.WellFormed := by
  have file (name text : String) (proper : isEntryName name = true)
      : (directoryOf name text).WellFormed :=
    Entries.wellFormed_nil.set proper (.file _)
  have library := file "a.js" "disk" (by decide)
  exact (((file _ _ (by decide)).set (by decide) (.file _)).set (by decide) library).set (by decide)
    (.file _)

def mappedTree : FileTree :=
  ⟨mappedProject, wellFormed_mappedProject⟩

def mappedConfig : BuildConfig :=
  { BuildConfig.ofBase ⟨"."⟩ with locales := .explicit [] }

/-- The mapping of the project. -/
def libraryMapping : MetadataItem :=
  ⟨⟨"own.txt", ⟨"./metadata.gecko"⟩⟩, "lib/a.js"⟩

/-- The mapped file wins over the one in the directory, which is reported. -/
theorem firstSource_of_assemble_mapped
    : ∃ built,
        assemble ⟨fun _ _ => none⟩ mappedTree mappedConfig = .ok built
        ∧ built.package.get? "lib/a.js" = some "mapped".toUTF8
        ∧ built.package.conflicts = [Warning.conflict "lib/a.js"] := by
  have summary : ((assemble ⟨fun _ _ => none⟩ mappedTree mappedConfig).toOption.map fun built =>
        (built.params.locales, built.params.metadata.items mappingSection,
          built.params.metadata.items preprocessSection,
          (sources mappedTree built.params (.ofEntries mappedProject)).flatMap Assoc.names))
      = some ([], [libraryMapping], [],
          ["install.rdf", "lib/a.js", "bootstrap.js", "lib/a.js"]) := by
    decide +kernel
  cases done : assemble ⟨fun _ _ => none⟩ mappedTree mappedConfig with
  | error fault =>
      rw [done] at summary
      cases summary
  | ok built =>
      rw [done] at summary
      obtain ⟨locales, mapped, untemplated, names⟩ : built.params.locales = []
          ∧ built.params.metadata.items mappingSection = [libraryMapping]
          ∧ built.params.metadata.items preprocessSection = []
          ∧ (sources mappedTree built.params (.ofEntries mappedProject)).flatMap Assoc.names
            = ["install.rdf", "lib/a.js", "bootstrap.js", "lib/a.js"] := by
        simpa only [Except.toOption, Option.map_some, Option.some.injEq, Prod.mk.injEq]
          using summary
      obtain ⟨filter, filtered, -, contents, conflicts⟩ := firstSource_of_assemble done
      have sameFilter : .ofEntries mappedProject = filter := Except.ok.inj filtered
      subst sameFilter
      have mapping : mappedFiles mappedTree (.ofEntries mappedProject) libraryMapping
          = [("lib/a.js", "mapped".toUTF8)] := by
        decide +kernel
      have first : IsFirstOffer (sources mappedTree built.params (.ofEntries mappedProject))
          "lib/a.js" "mapped".toUTF8 := by
        rw [sources, mapped, List.map_singleton, mapping]
        refine ⟨[_], _, _, rfl, ?_, List.mem_singleton.mpr rfl⟩
        intro earlier member
        have different : "lib/a.js" ≠ InstallManifest.archivePath := by
          decide
        rw [List.mem_singleton.mp member]
        simpa using different
      have plain : ¬ Locale.IsCatalogPath built.params.locales "lib/a.js" := by
        rintro ⟨locale, member, -⟩
        rw [locales] at member
        exact absurd member List.not_mem_nil
      have stored := contents _ _ first plain (by simp [untemplated])
      have plainText : Locale.expandManifest [] "lib/a.js" "mapped".toUTF8 = "mapped".toUTF8 := by
        decide +kernel
      have again : Package.repeated [] ["install.rdf", "lib/a.js", "bootstrap.js", "lib/a.js"]
          = ["lib/a.js"] := by
        decide
      rw [locales, plainText] at stored
      rw [names, again] at conflicts
      exact ⟨built, rfl, stored, conflicts⟩

end AddonPackager.Build
