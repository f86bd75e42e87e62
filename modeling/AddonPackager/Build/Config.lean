import AddonPackager.DiskPath
import AddonPackager.Locale.Selection
import AddonPackager.Metadata.Basic

/-! What a build is asked to do, and what is known once it has started.
-/

namespace AddonPackager

/-- The choices about a build. -/
structure BuildConfig where
  /-- The directory of the add-on. -/
  base : DiskPath
  /-- The build type, which selects the metadata file. -/
  buildType : String
  locales : Locale.Selection
  buildNumber : Option String
  release : Bool
  multicompartment : Bool
  defaultLocale : String
  /-- Where the archive goes, if not to its usual name. -/
  outFile : Option DiskPath
  /-- The key and certificates to sign with. -/
  keyFile : Option DiskPath
  /-- Where modules that scripts require come from. -/
  moduleLibrary : Option DiskPath
  deriving DecidableEq, Repr

namespace BuildConfig

def ofBase (base : DiskPath) : BuildConfig where
  base := base
  buildType := "gecko"
  locales := .complete
  buildNumber := none
  release := false
  multicompartment := false
  defaultLocale := "en-US"
  outFile := none
  keyFile := none
  moduleLibrary := none

def chromeDirectory (config : BuildConfig) : DiskPath :=
  config.base ++ DiskPath.mk "chrome"

/-- The directory with one subdirectory for each locale. -/
def localesDirectory (config : BuildConfig) : DiskPath :=
  config.chromeDirectory ++ DiskPath.mk "locale"

def localeDirectory (config : BuildConfig) (locale : String) : DiskPath :=
  config.localesDirectory ++ DiskPath.mk locale

/-- The metadata file of the build type. -/
def metadataPath (config : BuildConfig) : DiskPath :=
  config.base ++ DiskPath.mk ("metadata." ++ config.buildType)

/-- The parts of the chrome directory that are packaged: their names inside it and where they
are.
-/
def chromeParts (config : BuildConfig) (locales : List String) : List (String × DiskPath) :=
  ["content", "skin"].map (fun name => (name, config.chromeDirectory ++ DiskPath.mk name)) ++
    locales.map fun locale => ("locale/" ++ locale, config.localeDirectory locale)

end BuildConfig

/-- What a build works with. -/
structure BuildParams where
  config : BuildConfig
  /-- The packaged locales. -/
  locales : List String
  version : String
  metadata : Metadata
  contributors : List String

end AddonPackager
