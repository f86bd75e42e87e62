import AddonPackager.Build.Config
import AddonPackager.Contributor.Basic
import AddonPackager.Locale.Discovery
import AddonPackager.Metadata.Layers
import AddonPackager.Version
import AddonPackager.VersionControl

/-! Finding out what a build works with: its locales, metadata, version and contributors.
-/

namespace AddonPackager

/-- The locales that a build packages. Of names that are asked for, the first one that is no
locale name is refused.
-/
def BuildConfig.resolveLocales (config : BuildConfig) (tree : FileTree)
    : Except BuildError (List String) :=
  let found := Locale.available tree config.localesDirectory
  match config.locales with
  | .complete => .ok (found false config.defaultLocale)
  | .all => .ok (found true config.defaultLocale)
  | .explicit names =>
      match names.find? (!Locale.isName ·) with
      | some name => .error (.invalidLocale name)
      | none => .ok names

namespace BuildParams

/-- The section with the options about the add-on as a whole. -/
def generalSection : String := "general"

/-- What a build works with, and warnings. Version control is asked only for a build number that the
configuration does not give.
-/
def read (tree : FileTree) (config : BuildConfig) (control : VersionControl)
    : Except BuildError (BuildParams × List Warning) := do
  let locales ← config.resolveLocales tree
  let metadata ← Metadata.read tree config.metadataPath
  let written ← metadata.get generalSection "version"
  let buildNumber := config.buildNumber.getD (control.buildNumber tree config.base)
  let version := Version.ofBuild written config.release buildNumber
  let (contributors, warnings) ← Contributor.read tree metadata
  return (⟨config, locales, version, metadata, contributors⟩, warnings)

end BuildParams

end AddonPackager
