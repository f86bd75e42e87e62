import AddonPackager.Proofs.Bootstrap.ModuleClosure
import AddonPackager.Proofs.Build.Gathering
import AddonPackager.Proofs.Build.Steps

/-! Fallback over a whole build. Once the gaps are filled, every packaged locale has every catalog
of the default locale with every key, and no later step of the build touches files of locales.
-/

namespace AddonPackager

variable {tree : FileTree} {config : BuildConfig} {params : BuildParams}
  {signer : Signature.Signer} {control : VersionControl} {built : Assembled}
  {package changed imported completed : Package} {locale name : String}

-----------------------------------------------------------------------------------------
-- Filling the gaps
-----------------------------------------------------------------------------------------

namespace Locale

/-- Every locale has every catalog of the default locale that reads, and where its own catalog
reads, it has every key.
-/
def IsFallbackComplete (locales : List String) (defaultLocale : String) (package : Package)
    : Prop :=
  ∀ file data text reference,
    package.get? (path defaultLocale file) = some data →
    String.fromUTF8? data = some text →
    Catalog.parse text (path defaultLocale file) = .ok (some reference) →
    ∀ locale ∈ locales, ∃ content,
      package.get? (path locale file) = some content
      ∧ ∀ own target,
          String.fromUTF8? content = some own →
          Catalog.parse own (path locale file) = .ok (some target) →
          ∀ key ∈ reference.keys, key ∈ target.keys

open References in
/-- Filling the gaps makes the fallback complete, if the references are taken from the catalogs of
the default locale that are in the package.
-/
theorem isFallbackComplete_of_fillGaps (expands : package.OnlyExpandsManifests)
    (named : ∀ locale ∈ params.locales, isName locale = true)
    (member : params.config.defaultLocale ∈ params.locales)
    (agree : ∀ {alone file format},
      scratch tree params package.filter = .ok alone →
      CatalogFormat.ofPath? file = some format →
      package.get? (path params.config.defaultLocale file)
        = alone.get? (path params.config.defaultLocale file))
    (done : fillGaps tree params package = .ok changed)
    : IsFallbackComplete params.locales params.config.defaultLocale changed := by
  obtain ⟨⟨references, warned⟩, collected, merged⟩ := exists_of_map_eq_ok done
  obtain ⟨alone, warnings, scratched, rfl, rfl⟩ := exists_scratch_of_collect collected
  have warnedExpands : (package.warnAll warnings).OnlyExpandsManifests :=
    expands.congr Package.transforms_warnAll
  intro file data text reference stored isText read locale localeMember
  have catalog := Catalog.format_of_parse read
  rw [ofPath?_path] at catalog
  subst merged
  have own := get?_mergeInto_ofFiles warnedExpands named member
    (Package.get?_warnAll.trans (agree scratched catalog))
  rw [own, Package.get?_warnAll, agree scratched catalog] at stored
  have listed := get?_ofFiles_iff.mpr ⟨data, text, stored, isText, read⟩
  have isReference : Catalog.parse text file = .ok (some reference) :=
    Catalog.parse_congr ofPath?_path read
  refine ⟨_, get?_mergeInto warnedExpands parsed_ofFiles named localeMember listed, ?_⟩
  intro content target contentText contentRead key keyMember
  exact mem_keys_of_parse_filled isReference contentText contentRead keyMember

end Locale

-----------------------------------------------------------------------------------------
-- Later steps
-----------------------------------------------------------------------------------------

/-- A change that leaves the files of all locales as they are. -/
def Package.SameLocales (before after : Package) : Prop :=
  ∀ locale file, after.get? (Locale.path locale file) = before.get? (Locale.path locale file)

theorem Package.SameLocales.trans {first second third : Package} (left : first.SameLocales second)
    (right : second.SameLocales third)
    : first.SameLocales third :=
  fun locale file => (right locale file).trans (left locale file)

/-- Storing a file outside of the chrome directory leaves the files of locales as they are. -/
theorem Package.sameLocales_put {path : String} {data : ByteArray}
    (elsewhere : path.toList.head? ≠ some 'c')
    : package.SameLocales (package.put path data) :=
  fun _ _ => Package.get?_put_of_ne (Build.ne_path_of_head elsewhere)

theorem Locale.IsFallbackComplete.congr {locales : List String} {defaultLocale : String}
    (complete : IsFallbackComplete locales defaultLocale package)
    (same : package.SameLocales changed)
    : IsFallbackComplete locales defaultLocale changed := by
  intro file data text reference stored isText read locale member
  rw [same] at stored
  obtain ⟨content, found, keys⟩ := complete file data text reference stored isText read locale member
  exact ⟨content, (same locale file).trans found, keys⟩

namespace Bootstrap

/-- Added modules leave the files of locales as they are, by induction on the work on the modules.
-/
theorem sameLocales_addModules (library : ModuleLibrary) (queue : List String)
    (bootstrap : Bootstrap) (package : Package)
    : package.SameLocales (addModules library queue bootstrap package).2 := by
  induction library, queue, bootstrap, package using addModules.induct with
  | case1 library bootstrap package =>
      rw [addModules]
      exact fun _ _ => rfl
  | case2 library bootstrap package module rest present ih =>
      rw [addModules_of_not_canAdd (not_canAdd_of_contains present)]
      exact ih
  | case3 library bootstrap package module rest absent unknown ih =>
      rw [addModules_of_not_canAdd (not_canAdd_of_unknown unknown)]
      exact ih
  | case4 library bootstrap package module rest absent content found _ added scan ih =>
      have stored : package.SameLocales (package.offer (modulePath module) content) := by
        intro locale file
        rw [Package.get?_offer, if_neg, Option.or_none]
        exact Build.ne_path_of_head (by simp [modulePath])
      rw [addModules_of_absent absent found]
      exact stored.trans ih

theorem sameLocales_addMissing (done : addMissing tree params package = .ok changed)
    : package.SameLocales changed := by
  rw [addMissing] at done
  split at done
  · cases done
    exact fun _ _ => rfl
  · split at done
    · simp at done
    · rename_i found inspected
      have modules : package.SameLocales
          (resolveModules tree params.config.moduleLibrary found package).2 := by
        unfold resolveModules
        split
        · exact fun _ _ => rfl
        · exact sameLocales_addModules _ _ _ _
      simp only at done
      split at done
      · cases done
        exact modules.trans (Package.sameLocales_put (by decide))
      · simp at done

end Bootstrap

theorem Signature.sameLocales_sign {signer : Signer} {keyFile : DiskPath}
    (done : sign signer tree keyFile package = .ok changed)
    : package.SameLocales changed := by
  rw [sign] at done
  split at done
  · simp at done
  · simp only at done
    split at done
    · simp at done
    · cases done
      exact ((Package.sameLocales_put (by decide)).trans
        (Package.sameLocales_put (by decide))).trans (Package.sameLocales_put (by decide))

namespace Build

/-- Without templates, everything that follows the fallback leaves the files of locales as they
are.
-/
theorem Steps.sameLocales (steps : Steps signer tree config control built)
    (untemplated : built.params.metadata.items preprocessSection = [])
    : steps.completed.SameLocales built.package := by
  have rendered : steps.runnable = steps.rendered := by
    have renderedDone := steps.renderedDone
    rw [renderTemplates, untemplated] at renderedDone
    exact Except.ok.inj renderedDone
  have renderedSame : steps.completed.SameLocales steps.rendered :=
    rendered ▸ Bootstrap.sameLocales_addMissing steps.runnableDone
  have signedDone := steps.signed_rendered
  unfold signed at signedDone
  split at signedDone
  · exact renderedSame.trans (Signature.sameLocales_sign signedDone)
  · exact Except.ok.inj signedDone ▸ renderedSame

/-- A build starts with a package that has no files and expands chrome manifests. -/
theorem get?_start {filter : PathFilter} {warnings : List Warning} {path : String}
    : (start filter params warnings).get? path = none := by
  rw [start, Package.get?_warnAll]
  rfl

theorem onlyExpandsManifests_start {filter : PathFilter} {warnings : List Warning}
    : (start filter params warnings).OnlyExpandsManifests := by
  rw [start, Package.OnlyExpandsManifests, Package.transforms_warnAll]
  intro transform member
  exact ⟨params.locales, by simpa [Package.withTransform, Package.empty] using member⟩

/-- Fallback over a whole build: without mapped files and templates, every packaged locale has
every catalog of the packaged default locale, with every key wherever its own catalog reads.
-/
theorem isFallbackComplete_of_assemble (done : assemble signer tree config control = .ok built)
    (unmapped : built.params.metadata.items mappingSection = [])
    (untemplated : built.params.metadata.items preprocessSection = [])
    (packaged : config.defaultLocale ∈ built.params.locales)
    : Locale.IsFallbackComplete built.params.locales config.defaultLocale built.package := by
  obtain ⟨steps⟩ := nonempty_steps_of_assemble done
  have setup : steps.imported.filter = (start steps.filter built.params steps.warnings).filter
      ∧ steps.imported.transforms
        = (start steps.filter built.params steps.warnings).transforms := by
    obtain ⟨manifest, gatheredFiles⟩ := eq_offerAll_of_gather unmapped steps.gatherDone
    rw [MessageBundle.eq_putAll_of_importLocales steps.importDone, gatheredFiles]
    simp [Package.putText]
  have agree : ∀ {alone file format},
      Locale.References.scratch tree built.params steps.imported.filter = .ok alone →
      CatalogFormat.ofPath? file = some format →
      steps.imported.get? (Locale.path built.params.config.defaultLocale file)
        = alone.get? (Locale.path built.params.config.defaultLocale file) := by
    intro alone file format scratched catalog
    rw [setup.1] at scratched
    exact get?_imported_eq_scratch onlyExpandsManifests_start unmapped steps.isName
      (steps.config_eq ▸ packaged) catalog get?_start steps.gatherDone steps.importDone scratched
  have complete := Locale.isFallbackComplete_of_fillGaps
    (onlyExpandsManifests_start.congr setup.2) steps.isName (steps.config_eq ▸ packaged) agree
    steps.fallbackDone
  exact (steps.config_eq ▸ complete).congr (steps.sameLocales untemplated)

def directoryOf (name text : String) : Entries :=
  Entries.set name (.file text.toUTF8) []

/-- Two locales, of which one lacks a message of the other. -/
def smallLocales : Entries :=
  Entries.set "de" (.directory (directoryOf "x.properties" "a=1"))
    (Entries.set "en-US" (.directory (directoryOf "x.properties" "a=9\nb=2\n")) [])

/-- A project with two locales. -/
def smallProject : Entries :=
  Entries.set "bootstrap.js" (.file .empty)
    (Entries.set "chrome" (.directory (Entries.set "locale" (.directory smallLocales) []))
      (directoryOf "metadata.gecko" "[general]\nbasename=t\nid=t@t\nversion=1\n"))

theorem wellFormed_smallProject : smallProject.WellFormed := by
  have file (name text : String) (proper : isEntryName name = true)
      : (directoryOf name text).WellFormed :=
    Entries.wellFormed_nil.set proper (.file _)
  have german := file "x.properties" "a=1" (by decide)
  have english := file "x.properties" "a=9\nb=2\n" (by decide)
  have locales : smallLocales.WellFormed :=
    (Entries.wellFormed_nil.set (by decide) english).set (by decide) german
  have chrome : (Entries.set "locale" (.directory smallLocales) []).WellFormed :=
    Entries.wellFormed_nil.set (by decide) locales
  exact ((file _ _ (by decide)).set (by decide) chrome).set (by decide) (.file _)

def smallTree : FileTree :=
  ⟨smallProject, wellFormed_smallProject⟩

def smallConfig : BuildConfig :=
  { BuildConfig.ofBase ⟨"."⟩ with locales := .explicit ["en-US", "de"] }

/-- The small project is built, and both of its locales have both messages. -/
theorem isFallbackComplete_of_assemble_small
    : ∃ built,
        assemble ⟨fun _ _ => none⟩ smallTree smallConfig = .ok built
        ∧ built.params.locales = ["en-US", "de"]
        ∧ built.package.get? (Locale.path "en-US" "x.properties") = some "a=9\nb=2\n".toUTF8
        ∧ Locale.IsFallbackComplete ["en-US", "de"] "en-US" built.package := by
  have summary : ((assemble ⟨fun _ _ => none⟩ smallTree smallConfig).toOption.map fun built =>
        (built.params.locales, built.params.metadata.items mappingSection,
          built.params.metadata.items preprocessSection,
          built.package.get? (Locale.path "en-US" "x.properties")))
      = some (["en-US", "de"], [], [], some "a=9\nb=2\n".toUTF8) := by
    decide +kernel
  cases done : assemble ⟨fun _ _ => none⟩ smallTree smallConfig with
  | error fault =>
      rw [done] at summary
      cases summary
  | ok built =>
      rw [done] at summary
      obtain ⟨locales, unmapped, untemplated, stored⟩ : built.params.locales = ["en-US", "de"]
          ∧ built.params.metadata.items mappingSection = []
          ∧ built.params.metadata.items preprocessSection = []
          ∧ built.package.get? (Locale.path "en-US" "x.properties")
            = some "a=9\nb=2\n".toUTF8 := by
        simpa only [Except.toOption, Option.map_some, Option.some.injEq, Prod.mk.injEq] using summary
      have packaged : smallConfig.defaultLocale ∈ built.params.locales := by
        rw [locales]
        decide
      have complete := isFallbackComplete_of_assemble done unmapped untemplated packaged
      rw [locales] at complete
      exact ⟨built, rfl, locales, stored, complete⟩

end Build

end AddonPackager
