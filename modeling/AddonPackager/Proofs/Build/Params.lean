import AddonPackager.Build.Params
import AddonPackager.Proofs.Fallible
import AddonPackager.Proofs.Locale.Discovery

/-! What a build works with. All of it is read from the project, except that version control may tell
the build number, which the version of every development build ends in.
-/

namespace AddonPackager

variable {tree : FileTree} {config : BuildConfig} {control control' : VersionControl}
  {params : BuildParams} {warnings : List Warning} {base : DiskPath}

-----------------------------------------------------------------------------------------
-- Build numbers
-----------------------------------------------------------------------------------------

/-- Whatever version control prints, there is a build number. -/
theorem VersionControl.buildNumber_ne_empty : control.buildNumber tree base ≠ "" := by
  rw [buildNumber]
  split
  · split
    · decide
    · assumption
  · decide

/-- A directory that is not the top of a repository has the build number of an unknown build. -/
theorem VersionControl.buildNumber_of_no_repository
    (noMercurial : tree.isDirectory (base ++ DiskPath.mk ".hg") = false)
    (noGit : tree.holds (base ++ DiskPath.mk ".git") = false)
    : control.buildNumber tree base = Version.unknownBuild := by
  have silent : control.told? tree base = none := by
    simp [told?, noMercurial, noGit]
  rw [buildNumber, silent]

-----------------------------------------------------------------------------------------
-- Parameters
-----------------------------------------------------------------------------------------

namespace BuildParams

/-- What is read of a project, part by part. -/
structure IsRead (tree : FileTree) (config : BuildConfig) (control : VersionControl)
    (params : BuildParams) (warnings : List Warning) : Prop where
  config_eq : params.config = config
  resolved : config.resolveLocales tree = .ok params.locales
  metadataRead : Metadata.read tree config.metadataPath = .ok params.metadata
  versionRead
    : ∃ written,
        params.metadata.get generalSection "version" = .ok written
        ∧ params.version
          = Version.ofBuild written config.release
              (config.buildNumber.getD (control.buildNumber tree config.base))
  contributorsRead : Contributor.read tree params.metadata = .ok (params.contributors, warnings)

theorem read_eq_ok_iff
    : read tree config control = .ok (params, warnings)
      ↔ IsRead tree config control params warnings := by
  constructor
  · intro done
    unfold read at done
    obtain ⟨locales, resolved, afterLocales⟩ := exists_of_bind_eq_ok done
    obtain ⟨metadata, metadataRead, afterMetadata⟩ := exists_of_bind_eq_ok afterLocales
    obtain ⟨written, versionRead, afterVersion⟩ := exists_of_bind_eq_ok afterMetadata
    obtain ⟨⟨contributors, found⟩, contributorsRead, built⟩ := exists_of_bind_eq_ok afterVersion
    cases built
    exact ⟨rfl, resolved, metadataRead, ⟨written, versionRead, rfl⟩, contributorsRead⟩
  · rintro ⟨rfl, resolved, metadataRead, ⟨written, versionRead, version⟩, contributorsRead⟩
    rw [read, resolved, bind_ok, metadataRead, bind_ok, versionRead, bind_ok, contributorsRead,
      bind_ok]
    exact congrArg (fun version => Except.ok ({ params with version }, warnings)) version.symm

theorem IsRead.isName (read : IsRead tree config control params warnings)
    : ∀ locale ∈ params.locales, Locale.isName locale = true :=
  BuildConfig.isName_of_resolveLocales read.resolved

/-- The version of a development build ends in its build number, unless an empty one is asked for. -/
theorem IsRead.exists_version (read : IsRead tree config control params warnings)
    (development : config.release = false) (numbered : config.buildNumber ≠ some "")
    : ∃ before number, number ≠ "" ∧ params.version = before ++ "." ++ number := by
  obtain ⟨written, -, version⟩ := read.versionRead
  have nonempty : config.buildNumber.getD (control.buildNumber tree config.base) ≠ "" := by
    cases given : config.buildNumber with
    | none => exact VersionControl.buildNumber_ne_empty
    | some number =>
        rintro rfl
        exact numbered given
  rw [Version.ofBuild, development, if_neg (by simp [nonempty])] at version
  exact ⟨_, _, nonempty, version⟩

/-- Releases, and builds whose number is given, do not depend on version control. -/
theorem read_congr (given : config.release = true ∨ config.buildNumber.isSome = true)
    : read tree config control = read tree config control' := by
  have sameVersion (written : String)
      : Version.ofBuild written config.release
          (config.buildNumber.getD (control.buildNumber tree config.base))
        = Version.ofBuild written config.release
          (config.buildNumber.getD (control'.buildNumber tree config.base)) := by
    rcases given with release | numbered
    · simp [Version.ofBuild, release]
    · obtain ⟨number, isGiven⟩ := Option.isSome_iff_exists.mp numbered
      rw [isGiven, Option.getD_some, Option.getD_some]
  simp only [read, sameVersion]

end BuildParams

end AddonPackager
