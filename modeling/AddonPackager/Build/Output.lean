import AddonPackager.Archive.Order
import AddonPackager.Archive.Writing
import AddonPackager.Archive.Zip
import AddonPackager.Build.Assembly

/-! Builds as archives, in memory and on disk.
-/

namespace AddonPackager

/-- The members of the archive of a package, in an order given by a sort key. -/
def Package.membersBy {κ : Type} (package : Package) (le : κ → κ → Bool) (sortKey : String → κ)
    : List Archive.Member :=
  (Archive.order le sortKey package.paths).map fun path =>
    (path, (package.get? path).getD .empty)

/-- The members of the archive of a package in the order of their paths. -/
def Package.members (package : Package) : List Archive.Member :=
  package.membersBy Archive.textLe id

/-- A build that has been written. -/
structure BuildOutput where
  path : DiskPath
  version : String
  fileCount : Nat
  warnings : List Warning
  /-- The file tree with the archive. -/
  tree : FileTree

/-- Why a build was not written, and the file tree it leaves. -/
structure BuildFailure where
  cause : BuildError
  tree : FileTree

namespace Build

/-- The version and the archive of a build. -/
def toArchive (signer : Signature.Signer) (tree : FileTree) (config : BuildConfig)
    (control : VersionControl := .absent) : Except BuildError (String × ByteArray) :=
  (assemble signer tree config control).map fun assembled =>
    (assembled.params.version, Archive.encode assembled.package.members)

/-- Where the archive of a build goes: where the configuration says, else to a name made of the
base name and the version.
-/
def outputPath (params : BuildParams) : Except BuildError DiskPath :=
  match params.config.outFile with
  | some path => .ok path
  | none =>
      (params.metadata.get BuildParams.generalSection "basename").map fun basename =>
        ⟨Version.archiveName basename params.version "xpi"⟩

/-- Writes the archive of an assembled package. -/
def write (tree : FileTree) (assembled : Assembled) : Except BuildFailure BuildOutput :=
  match outputPath assembled.params with
  | .error cause => .error ⟨cause, tree⟩
  | .ok path =>
      let package := assembled.package
      match Archive.write tree path (Archive.encode package.members) with
      | .error failure => .error ⟨.notWritten path failure.fault, failure.tree⟩
      | .ok written =>
          .ok ⟨path, assembled.params.version, package.entries.size, package.warnings, written⟩

/-- Builds an archive and writes it. -/
def create (signer : Signature.Signer) (tree : FileTree) (config : BuildConfig)
    (control : VersionControl := .absent) : Except BuildFailure BuildOutput :=
  match assemble signer tree config control with
  | .error cause => .error ⟨cause, tree⟩
  | .ok assembled => write tree assembled

end Build

end AddonPackager
