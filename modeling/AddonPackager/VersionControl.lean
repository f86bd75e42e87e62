import AddonPackager.FileTree.Tree
import AddonPackager.Text.Trim
import AddonPackager.Text.Utf8
import AddonPackager.Version

/-! Build numbers from version control. A project at the top of a repository is built under the number
that the repository has reached. The programs that tell it stand outside and are parameters here.
-/

namespace AddonPackager

/-- What the programs of version control print about the repository of a directory, where they run
and succeed.
-/
structure VersionControl where
  /-- The number of the revision of a Mercurial repository. -/
  mercurialRevision? : DiskPath → Option ByteArray
  /-- The count of the commits of a Git repository. -/
  gitCommitCount? : DiskPath → Option ByteArray

namespace VersionControl

/-- No program of version control can be run. -/
def absent : VersionControl :=
  ⟨fun _ => none, fun _ => none⟩

/-- The number told of the repository that a directory is the top of. -/
def told? (control : VersionControl) (tree : FileTree) (base : DiskPath) : Option String :=
  if tree.isDirectory (base ++ DiskPath.mk ".hg") then
    -- Local changes are marked behind the number.
    (control.mercurialRevision? base).map fun printed =>
      String.ofList ((Text.lossy printed).filter Char.isDigit)
  else if tree.holds (base ++ DiskPath.mk ".git") then
    (control.gitCommitCount? base).map fun printed =>
      String.ofList (Text.trim (Text.lossy printed))
  else
    none

/-- The build number of a directory. -/
def buildNumber (control : VersionControl) (tree : FileTree) (base : DiskPath) : String :=
  match control.told? tree base with
  | some number => if number = "" then Version.unknownBuild else number
  | none => Version.unknownBuild

end VersionControl

end AddonPackager
