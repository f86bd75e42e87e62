import AddonPackager.Bootstrap.Basic
import AddonPackager.InstallManifest.Basic
import AddonPackager.Package.Basic

/-! What every package has to satisfy before it is signed and written.
-/

namespace AddonPackager.Package

/-- The files without which an add-on does not run. -/
def requiredPaths : List String :=
  [InstallManifest.archivePath, Bootstrap.archivePath]

/-- Paths that no archive member can have: the empty one and absolute ones. -/
def isInvalidPath (path : String) : Bool :=
  path = "" || Text.startsWith path "/"

/-- Checks that the required files are there and that no path is invalid; the first problem
counts.
-/
def validate (package : Package) : Except BuildError Unit :=
  match requiredPaths.find? (!package.contains ·) with
  | some path => .error (.requiredFileMissing path)
  | none =>
      match package.paths.find? isInvalidPath with
      | some path => .error (.invalidArchivePath path)
      | none => .ok ()

end AddonPackager.Package
