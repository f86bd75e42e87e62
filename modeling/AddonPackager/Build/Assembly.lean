import AddonPackager.Bootstrap.Generation
import AddonPackager.Build.Params
import AddonPackager.InstallManifest.Basic
import AddonPackager.Locale.Fallback
import AddonPackager.Locale.Placeholder
import AddonPackager.Package.Preprocessing
import AddonPackager.Package.Reading
import AddonPackager.Package.Validation
import AddonPackager.Signature.Signing

/-! Assembling a package: its files are gathered, locales are completed, missing files are
generated, templates are rendered, and the result is checked and signed.
-/

namespace AddonPackager

/-- A package with everything that comes out of it. -/
structure Assembled where
  params : BuildParams
  package : Package

namespace Build

/-- An empty package for a build, in which chrome manifests are expanded. -/
def start (filter : PathFilter) (params : BuildParams) (warnings : List Warning) : Package :=
  ((Package.empty filter).withTransform (Locale.expandManifest params.locales)).warnAll warnings

/-! Gathering -/

def mappingSection : String := "mapping"

/-- The entry of the add-on's directory that is read part by part. -/
def chromeName : String := "chrome"

/-- Reads a part of the chrome directory, if it is there. -/
def gatherPart (tree : FileTree) (package : Package) (part : String × DiskPath)
    : Except Package.Failure Package :=
  if tree.isDirectory part.2 then
    package.read tree part.2 (chromeName ++ "/" ++ part.1) []
  else
    .ok package

/-- Gathers the files of the add-on: the install manifest first, then mapped files, then the
directory and the parts of its chrome directory.
-/
def gather (tree : FileTree) (params : BuildParams) (package : Package)
    : Except Package.Failure Package := do
  -- What is stored first stays, so mapped files win over the directory.
  let described := package.putText InstallManifest.archivePath (InstallManifest.create tree params)
  let mapped := described.readMapped tree (params.metadata.items mappingSection)
  let read ← mapped.read tree params.config.base "" [chromeName]
  (params.config.chromeParts params.locales).foldlM (gatherPart tree) read

/-! Templates -/

/-- The section with the files that are templates. -/
def preprocessSection : String := "preprocess"

/-- The names that templates can use. -/
def templateParams (params : BuildParams) : List (String × Template.Value) := [
  ("version", .ofString params.version),
  ("release_build", .bool params.config.release),
  ("locales", .ofTexts params.locales),
  ("basename", .ofString
    ((params.metadata.get? BuildParams.generalSection "basename").getD ""))]

def renderTemplates (params : BuildParams) (package : Package)
    : Except Package.Failure Package :=
  package.preprocess (templateParams params)
    ((params.metadata.items preprocessSection).map (·.key))

/-! All steps -/

/-- Checks a package and leaves it as it is. -/
def checked (package : Package) : Except Package.Failure Package :=
  match package.validate with
  | .ok () => .ok package
  | .error cause => .error ⟨cause, package⟩

/-- Signs a package if there is a key file. -/
def signed (signer : Signature.Signer) (tree : FileTree) (keyFile : Option DiskPath)
    (package : Package) : Except Package.Failure Package :=
  match keyFile with
  | some keyFile => Signature.sign signer tree keyFile package
  | none => .ok package

/-- Everything that is done to an empty package. -/
def fill (signer : Signature.Signer) (tree : FileTree) (params : BuildParams)
    (package : Package) : Except Package.Failure Package := do
  let gathered ← gather tree params package
  let imported ←
    MessageBundle.importLocales tree params.metadata params.locales gathered
  let completed ← Locale.fillGaps tree params imported
  let runnable ← Bootstrap.addMissing tree params completed
  let rendered ← renderTemplates params runnable
  let valid ← checked rendered
  signed signer tree params.config.keyFile valid

/-- Assembles the package of a build. Nothing is written. -/
def assemble (signer : Signature.Signer) (tree : FileTree) (config : BuildConfig)
    (control : VersionControl := .absent) : Except BuildError Assembled := do
  let (params, warnings) ← BuildParams.read tree config control
  let filter ← PathFilter.forPackage tree config.base
  match fill signer tree params (start filter params warnings) with
  | .ok package => return ⟨params, package⟩
  | .error failure => throw failure.cause

end Build

end AddonPackager
