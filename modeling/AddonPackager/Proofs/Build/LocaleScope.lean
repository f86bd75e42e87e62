import AddonPackager.Proofs.Build.Sealing

/-! Which locales ship. Whatever stands below the chrome directory of a package was read or
generated for one of its locales, or belongs to no locale at all.
-/

namespace AddonPackager.Build

variable {signer : Signature.Signer} {tree : FileTree} {config : BuildConfig}
  {control : VersionControl} {params : BuildParams} {filter : PathFilter} {built : Assembled}
  {locales : List String} {package changed : Package} {source : List (String × ByteArray)}
  {path locale file : String}

/-- A path below the content, the skins or the directory of one of some locales. -/
def IsShipped (locales : List String) (path : String) : Prop :=
  "chrome/content/".toList <+: path.toList
  ∨ "chrome/skin/".toList <+: path.toList
  ∨ ∃ locale ∈ locales, (Locale.path locale "").toList <+: path.toList

/-- A path that stands in the chrome directory only if it is shipped. -/
def StaysInScope (locales : List String) (path : String) : Prop :=
  "chrome/".toList <+: path.toList → IsShipped locales path

theorem toList_content
    : "chrome/content/".toList = chromeName.toList ++ '/' :: ("content".toList ++ ['/']) := by
  decide

theorem toList_skin
    : "chrome/skin/".toList = chromeName.toList ++ '/' :: ("skin".toList ++ ['/']) := by
  decide

theorem toList_path_empty
    : (Locale.path locale "").toList
      = chromeName.toList ++ '/' :: ("locale/".toList ++ (locale.toList ++ ['/'])) := by
  simp [Locale.path, Locale.rootPath, chromeName]

theorem staysInScope_path (packaged : locale ∈ locales)
    : StaysInScope locales (Locale.path locale file) := by
  refine fun _ => .inr (.inr ⟨locale, packaged, file.toList, ?_⟩)
  simp [Locale.path]

/-- What starts with another letter stands elsewhere. -/
theorem staysInScope_of_head (elsewhere : path.toList.head? ≠ some 'c')
    : StaysInScope locales path := by
  rintro ⟨rest, split⟩
  rw [← split] at elsewhere
  exact absurd rfl elsewhere

/-- The parts of the chrome directory are in scope. -/
theorem staysInScope_of_mem_partFiles {part : String × DiskPath}
    (member : part ∈ params.config.chromeParts locales)
    (offered : path ∈ Assoc.names (partFiles tree filter part))
    : StaysInScope locales path := by
  intro _
  obtain ⟨file, listed, rfl⟩ := List.mem_map.mp offered
  have isBelow := prefix_of_mem_partFiles listed
  rw [BuildConfig.chromeParts, List.mem_append] at member
  rcases member with fixed | ofLocale
  · simp only [List.map_cons, List.map_nil, List.mem_cons, List.not_mem_nil, or_false] at fixed
    rcases fixed with rfl | rfl
    · exact .inl (toList_content ▸ isBelow)
    · exact .inr (.inl (toList_skin ▸ isBelow))
  · obtain ⟨locale, packaged, rfl⟩ := List.mem_map.mp ofLocale
    refine .inr (.inr ⟨locale, packaged, ?_⟩)
    rw [toList_path_empty, ← List.append_assoc, ← String.toList_append]
    exact isBelow

/-- Without mapped files, every source is in scope. -/
theorem staysInScope_of_mem_sources (unmapped : params.metadata.items mappingSection = [])
    (member : source ∈ sources tree params filter) (offered : path ∈ Assoc.names source)
    : StaysInScope params.locales path := by
  rcases mem_sources_iff.mp member with rfl | ⟨item, listed, -⟩ | rfl | ⟨part, isPart, rfl⟩
  · have manifest : path = InstallManifest.archivePath := List.mem_singleton.mp offered
    exact staysInScope_of_head (manifest ▸ by decide)
  · simp [unmapped] at listed
  · obtain ⟨file, listed, rfl⟩ := List.mem_map.mp offered
    have plain : '/' ∉ chromeName.toList := by decide
    intro isChrome
    exact absurd isChrome
      (PathFilter.not_prefix_of_mem_sourceFiles (List.mem_singleton.mpr rfl) plain listed)
  · exact staysInScope_of_mem_partFiles isPart offered

/-- No step generates files of other locales. -/
theorem IsGenerated.staysInScope (generated : IsGenerated tree params filter path)
    : StaysInScope params.locales path := by
  cases generated with
  | imported packaged listed =>
      obtain ⟨stem, here⟩ := MessageBundle.exists_path_of_mem_localeFiles listed
      rw [here]
      exact staysInScope_path packaged
  | completed packaged scratch known => exact staysInScope_path packaged
  | required named => exact staysInScope_of_head (by simp [Bootstrap.toList_modulePath])
  | started => exact staysInScope_of_head (by decide)

-----------------------------------------------------------------------------------------
-- Whole builds
-----------------------------------------------------------------------------------------

/-- A file of a locale is shipped only if the locale is packaged. -/
theorem IsShipped.mem_locales (named : ∀ other ∈ locales, Locale.isName other = true)
    (plain : '/' ∉ locale.toList) (shipped : IsShipped locales (Locale.path locale file))
    : locale ∈ locales := by
  rcases shipped with isContent | isSkin | ⟨other, packaged, isBelow⟩
  · rw [toList_content, prefix_path_iff] at isContent
    simp at isContent
  · rw [toList_skin, prefix_path_iff] at isSkin
    simp at isSkin
  · rw [toList_path_empty, prefix_path_iff, List.prefix_append_right_inj] at isBelow
    obtain ⟨rest, split⟩ := isBelow
    rw [List.append_assoc, List.singleton_append] at split
    have same := Text.append_cons_inj (Locale.not_mem_of_isName (named other packaged)) plain split
    exact String.toList_inj.mp same.1 ▸ packaged

/-- Only requested locales ship. Without mapped files, whatever a package has in its chrome directory
is content, a skin or a file of one of the locales that the choice of locales comes to. A locale that
is not among them has no files, also if it is the default locale that others are completed from.
-/
theorem isShipped_of_assemble (done : assemble signer tree config control = .ok built)
    (unmapped : built.params.metadata.items mappingSection = [])
    : config.resolveLocales tree = .ok built.params.locales
      ∧ (∀ path,
          built.package.contains path = true →
          "chrome/".toList <+: path.toList →
          IsShipped built.params.locales path)
      ∧ ∀ locale file,
          '/' ∉ locale.toList →
          locale ∉ built.params.locales →
          built.package.contains (Locale.path locale file) = false := by
  obtain ⟨steps⟩ := nonempty_steps_of_assemble done
  obtain ⟨filter, unsigned, -, -, -, origin, signedDone⟩ := exists_unsigned_of_assemble done
  have inScope : ∀ path, built.package.contains path = true →
      StaysInScope built.params.locales path := by
    intro path stored
    rcases mem_signaturePaths_or_contains_of_signed signedDone stored with signature | unsignedStored
    · refine staysInScope_of_head ?_
      rw [head?_of_mem_signaturePaths signature]
      decide
    · rcases origin path unsignedStored with ⟨source, member, offered⟩ | generated
      · exact staysInScope_of_mem_sources unmapped member offered
      · exact generated.staysInScope
  refine ⟨steps.isRead.resolved, inScope, fun locale file plain unlisted => ?_⟩
  rw [Bool.eq_false_iff]
  intro stored
  have isChrome : "chrome/".toList <+: (Locale.path locale file).toList :=
    prefix_path_iff.mpr List.nil_prefix
  exact unlisted ((inScope _ stored isChrome).mem_locales steps.isName plain)

def germanConfig : BuildConfig :=
  { BuildConfig.ofBase ⟨"."⟩ with locales := .explicit ["de"] }

/-- German is completed from the default locale, and nothing of the default locale ships. -/
theorem isShipped_of_assemble_german
    : ∃ built,
        assemble ⟨fun _ _ => none⟩ smallTree germanConfig = .ok built
        ∧ built.package.get? (Locale.path "de" "x.properties") = some "a=1\nb=2\n".toUTF8
        ∧ ∀ file, built.package.contains (Locale.path germanConfig.defaultLocale file) = false := by
  have summary : ((assemble ⟨fun _ _ => none⟩ smallTree germanConfig).toOption.map fun built =>
        (built.params.locales, built.params.metadata.items mappingSection,
          built.package.get? (Locale.path "de" "x.properties")))
      = some (["de"], [], some "a=1\nb=2\n".toUTF8) := by
    decide +kernel
  obtain ⟨built, done, seen⟩ := exists_of_map_toOption summary
  simp only [Prod.mk.injEq] at seen
  obtain ⟨locales, unmapped, stored⟩ := seen
  obtain ⟨-, -, others⟩ := isShipped_of_assemble done unmapped
  refine ⟨built, done, stored, fun file => others _ file (by decide) ?_⟩
  rw [locales]
  decide

end AddonPackager.Build
