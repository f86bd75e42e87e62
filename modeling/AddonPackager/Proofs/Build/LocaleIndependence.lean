import AddonPackager.Proofs.Build.Origins

/-! Two builds of one project that package different locales. Step by step they keep the same files
of every locale that both of them package, chrome manifests apart, which list all locales.
-/

namespace AddonPackager

variable {signer : Signature.Signer} {tree : FileTree} {config : BuildConfig}
  {control : VersionControl} {params params' : BuildParams} {filter : PathFilter} {locale : String}
  {locales locales' : List String} {first second : Package}

-----------------------------------------------------------------------------------------
-- What two builds share
-----------------------------------------------------------------------------------------

/-- A locale that is among two choices of locales. -/
structure Locale.IsShared (locale : String) (locales locales' : List String) : Prop where
  named : ∀ other ∈ locales, isName other = true
  named' : ∀ other ∈ locales', isName other = true
  member : locale ∈ locales
  member' : locale ∈ locales'

theorem Locale.IsShared.isName (shared : IsShared locale locales locales')
    : Locale.isName locale = true :=
  shared.named locale shared.member

/-- Two builds of one project. Their locales may be different. -/
structure Build.SameProject (params params' : BuildParams) : Prop where
  metadata : params'.metadata = params.metadata
  base : params'.config.base = params.config.base
  defaultLocale : params'.config.defaultLocale = params.config.defaultLocale

/-- Packages with the same files of a locale, chrome manifests apart. -/
def Package.AgreeOn (locale : String) (first second : Package) : Prop :=
  ∀ file, FileKind.ofPath (Locale.path locale file) ≠ .chromeManifest →
    first.get? (Locale.path locale file) = second.get? (Locale.path locale file)

/-- Packages that agree on a locale and that later steps treat alike. -/
structure Package.Alike (locale : String) (first second : Package) : Prop where
  agree : AgreeOn locale first second
  filter : second.filter = first.filter
  expands : first.OnlyExpandsManifests
  expands' : second.OnlyExpandsManifests

theorem Package.Alike.warnAll {warnings warnings' : List Warning}
    (alike : Package.Alike locale first second)
    : Package.Alike locale (first.warnAll warnings) (second.warnAll warnings') := by
  rw [Package.warnAll_eq, Package.warnAll_eq]
  exact ⟨alike.agree, alike.filter, alike.expands, alike.expands'⟩

-----------------------------------------------------------------------------------------
-- Gathering
-----------------------------------------------------------------------------------------

namespace Build

theorem SameProject.localeDirectory (same : SameProject params params')
    : params'.config.localeDirectory locale = params.config.localeDirectory locale := by
  simp only [BuildConfig.localeDirectory, BuildConfig.localesDirectory,
    BuildConfig.chromeDirectory, same.base]

theorem SameProject.localePart (same : SameProject params params')
    : Build.localePart params'.config locale = Build.localePart params.config locale := by
  rw [Build.localePart, Build.localePart, same.localeDirectory]

/-- Of all sources, only the mapped files and the part of a packaged locale offer its files. -/
theorem get?_sources {file : String} (named : ∀ other ∈ params.locales, Locale.isName other = true)
    (member : locale ∈ params.locales)
    : Assoc.get? (Locale.path locale file) (sources tree params filter).flatten
      = (Assoc.get? (Locale.path locale file)
          ((params.metadata.items mappingSection).flatMap (mappedFiles tree filter))).or
        (Assoc.get? (Locale.path locale file)
          (partFiles tree filter (localePart params.config locale))) := by
  have notManifest : InstallManifest.archivePath ≠ Locale.path locale file :=
    ne_path_of_head (by decide)
  simp only [sources, List.flatten_append, List.flatten_cons, List.cons_append, ← List.flatMap_def,
    List.nil_append]
  rw [Assoc.get?_cons, if_neg notManifest, Assoc.get?_append, Assoc.get?_append,
    get?_sourceFiles_top, Option.none_or, get?_flatMap_partFiles named member]

/-- Gathered packages are alike. -/
theorem alike_gather {warnings warnings' : List Warning} (same : SameProject params params')
    (shared : Locale.IsShared locale params.locales params'.locales)
    (done : gather tree params (start filter params warnings) = .ok first)
    (done' : gather tree params' (start filter params' warnings') = .ok second)
    : Package.Alike locale first second where
  agree file plain := by
    have asStored : ∀ locales, Locale.expandManifest locales (Locale.path locale file) = id := by
      intro locales
      funext data
      rw [Locale.expandManifest, if_neg plain]
      rfl
    rw [get?_gather_start done, get?_gather_start done', asStored, asStored,
      get?_sources shared.named shared.member, get?_sources shared.named' shared.member',
      same.metadata, same.localePart]
  filter := (filter_gather_start done').trans (filter_gather_start done).symm
  expands transform member := by
    rw [transforms_gather_start done, List.mem_singleton] at member
    exact ⟨_, member⟩
  expands' transform member := by
    rw [transforms_gather_start done', List.mem_singleton] at member
    exact ⟨_, member⟩

end Build

-----------------------------------------------------------------------------------------
-- Completing locales
-----------------------------------------------------------------------------------------

/-- Importing bundles keeps packages alike. -/
theorem MessageBundle.alike_importLocales {metadata : Metadata} {imported imported' : Package}
    (alike : Package.Alike locale first second) (shared : Locale.IsShared locale locales locales')
    (done : importLocales tree metadata locales first = .ok imported)
    (done' : importLocales tree metadata locales' second = .ok imported')
    : Package.Alike locale imported imported' where
  agree file plain := by
    rw [get?_importLocales alike.expands plain shared.named shared.member done,
      get?_importLocales alike.expands' plain shared.named' shared.member' done',
      alike.agree file plain]
  filter := by
    rw [eq_putAll_of_importLocales done, eq_putAll_of_importLocales done', Package.filter_putAll,
      Package.filter_putAll, alike.filter]
  expands := by
    rw [eq_putAll_of_importLocales done]
    exact alike.expands.congr Package.transforms_putAll
  expands' := by
    rw [eq_putAll_of_importLocales done']
    exact alike.expands'.congr Package.transforms_putAll

namespace Locale

/-- Only merging into a locale changes its files. -/
theorem References.get?_mergeInto_of_absent {references : References} {file : String}
    (named : ∀ other ∈ locales, Locale.isName other = true) (isName : Locale.isName locale = true)
    (absent : references.catalogs.get? file = none)
    : (references.mergeInto locales first).get? (Locale.path locale file)
      = first.get? (Locale.path locale file) := by
  refine get?_mergeInto_of_ne fun other member name reference found here => ?_
  obtain ⟨-, rfl⟩ := (path_eq_iff (named other member) isName).mp here
  rw [absent] at found
  cases found

/-- Merging references keeps packages in agreement, whatever the other locales are. -/
theorem References.agreeOn_mergeInto {references : References} (parsed : references.Parsed)
    (alike : Package.Alike locale first second) (shared : IsShared locale locales locales')
    : Package.AgreeOn locale (references.mergeInto locales first)
        (references.mergeInto locales' second) := by
  intro file plain
  cases listed : references.catalogs.get? file with
  | some reference =>
      rw [get?_mergeInto alike.expands parsed shared.named shared.member listed,
        get?_mergeInto alike.expands' parsed shared.named' shared.member' listed,
        alike.agree file plain]
  | none =>
      rw [get?_mergeInto_of_absent shared.named shared.isName listed,
        get?_mergeInto_of_absent shared.named' shared.isName listed, alike.agree file plain]

/-- The default locale alone is the same in both builds. -/
theorem References.scratch_congr (same : Build.SameProject params params')
    : scratch tree params' filter = scratch tree params filter := by
  unfold scratch
  simp only [same.defaultLocale, same.localeDirectory, same.base, same.metadata]

/-- Filling gaps keeps packages in agreement. -/
theorem agreeOn_fillGaps {completed completed' : Package} (same : Build.SameProject params params')
    (alike : Package.Alike locale first second)
    (shared : IsShared locale params.locales params'.locales)
    (done : fillGaps tree params first = .ok completed)
    (done' : fillGaps tree params' second = .ok completed')
    : Package.AgreeOn locale completed completed' := by
  obtain ⟨⟨references, warned⟩, collected, rfl⟩ := exists_of_map_eq_ok done
  obtain ⟨⟨references', warned'⟩, collected', rfl⟩ := exists_of_map_eq_ok done'
  obtain ⟨alone, warnings, scratched, rfl, rfl⟩ := References.exists_scratch_of_collect collected
  obtain ⟨alone', warnings', scratched', rfl, rfl⟩ := References.exists_scratch_of_collect collected'
  rw [alike.filter, References.scratch_congr same] at scratched'
  cases scratched.symm.trans scratched'
  rw [same.defaultLocale]
  exact References.agreeOn_mergeInto References.parsed_ofFiles alike.warnAll shared

end Locale

-----------------------------------------------------------------------------------------
-- Whole builds
-----------------------------------------------------------------------------------------

namespace Build

/-- Locales do not influence each other. Without templates, two builds that were asked for different
locales of one project have the same files of every locale that both package, chrome manifests
apart.
-/
theorem get?_eq_of_assemble {selection : Locale.Selection} {built other : Assembled}
    (done : assemble signer tree config control = .ok built)
    (done' : assemble signer tree { config with locales := selection } control = .ok other)
    (untemplated : built.params.metadata.items preprocessSection = [])
    (member : locale ∈ built.params.locales) (member' : locale ∈ other.params.locales)
    : ∀ path,
        (Locale.path locale "").toList <+: path.toList →
        FileKind.ofPath path ≠ .chromeManifest →
        built.package.get? path = other.package.get? path := by
  obtain ⟨steps⟩ := nonempty_steps_of_assemble done
  obtain ⟨steps'⟩ := nonempty_steps_of_assemble done'
  have same : SameProject built.params other.params := by
    refine ⟨?_, ?_, ?_⟩
    · exact Except.ok.inj (steps'.isRead.metadataRead.symm.trans steps.isRead.metadataRead)
    · rw [steps.config_eq, steps'.config_eq]
    · rw [steps.config_eq, steps'.config_eq]
  have shared : Locale.IsShared locale built.params.locales other.params.locales :=
    ⟨steps.isName, steps'.isName, member, member'⟩
  have sameFilter : steps'.filter = steps.filter :=
    Except.ok.inj (steps'.filterDone.symm.trans steps.filterDone)
  have gathered : Package.Alike locale steps.gathered steps'.gathered :=
    alike_gather same shared steps.gatherDone (sameFilter ▸ steps'.gatherDone)
  have imported : Package.Alike locale steps.imported steps'.imported :=
    MessageBundle.alike_importLocales gathered shared steps.importDone
      (same.metadata ▸ steps'.importDone)
  have completed : Package.AgreeOn locale steps.completed steps'.completed :=
    Locale.agreeOn_fillGaps same imported shared steps.fallbackDone steps'.fallbackDone
  have finished := steps.sameLocales untemplated
  have finished' := steps'.sameLocales (same.metadata ▸ untemplated)
  rintro path ⟨file, split⟩ plain
  have inLocale : path = Locale.path locale (String.ofList file) := by
    rw [← String.toList_inj, ← split, Locale.toList_path, Locale.toList_path]
    simp
  rw [inLocale, finished, finished', completed _ (inLocale ▸ plain)]

/-- German has the same files next to the default locale and on its own, asked for twice. -/
theorem get?_eq_of_assemble_german
    : ∃ built other,
        assemble ⟨fun _ _ => none⟩ smallTree smallConfig = .ok built
        ∧ assemble ⟨fun _ _ => none⟩ smallTree { smallConfig with locales := .explicit ["de", "de"] }
          = .ok other
        ∧ built.package.get? (Locale.path "de" "x.properties") = some "a=1\nb=2\n".toUTF8
        ∧ ∀ file,
            FileKind.ofPath (Locale.path "de" file) ≠ .chromeManifest →
            built.package.get? (Locale.path "de" file) = other.package.get? (Locale.path "de" file)
    := by
  have summary : ((assemble ⟨fun _ _ => none⟩ smallTree smallConfig).toOption.map fun built =>
        (built.params.locales, built.params.metadata.items preprocessSection,
          built.package.get? (Locale.path "de" "x.properties")))
      = some (["en-US", "de"], [], some "a=1\nb=2\n".toUTF8) := by
    decide +kernel
  have summary' : ((assemble ⟨fun _ _ => none⟩ smallTree
        { smallConfig with locales := .explicit ["de", "de"] }).toOption.map fun built =>
          built.params.locales)
      = some ["de", "de"] := by
    decide +kernel
  obtain ⟨built, done, seen⟩ := exists_of_map_toOption summary
  obtain ⟨other, done', seen'⟩ := exists_of_map_toOption summary'
  simp only [Prod.mk.injEq] at seen
  obtain ⟨locales, untemplated, stored⟩ := seen
  have member : "de" ∈ built.params.locales := by
    rw [locales]
    decide
  have member' : "de" ∈ other.params.locales := by
    rw [seen']
    decide
  refine ⟨built, other, done, done', stored, fun file plain => ?_⟩
  refine get?_eq_of_assemble done done' untemplated member member' _ ⟨file.toList, ?_⟩ plain
  simp [Locale.path]

end Build

end AddonPackager
