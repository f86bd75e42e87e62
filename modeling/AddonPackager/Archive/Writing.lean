import AddonPackager.Build.Error
import AddonPackager.FileTree.Tree

/-! Writing an archive to its place. The bytes go to a partial file first, which is then moved, so
that no incomplete archive is ever at the place itself.
-/

namespace AddonPackager.Archive

/-- Why an archive was not written, and the file tree as far as the writing had come. -/
structure WriteFailure where
  fault : WriteFault
  tree : FileTree

/-- The partial file of a place. -/
def partialPath (path : DiskPath) : DiskPath :=
  path.withFileName (path.fileName?.getD "" ++ ".part")

/-- Makes the directory that a path is in, if the path names one. -/
def prepare (tree : FileTree) (path : DiskPath) : Except WriteFailure FileTree :=
  if path.directory.text = "" then
    .ok tree
  else
    match tree.makeDirectories? path.directory with
    | some made => .ok made
    | none => .error ⟨.directory path.directory, tree⟩

def write (tree : FileTree) (path : DiskPath) (data : ByteArray)
    : Except WriteFailure FileTree :=
  match prepare tree path with
  | .error failure => .error failure
  | .ok made =>
      match made.write? (partialPath path) data with
      | none => .error ⟨.partialFile (partialPath path), made⟩
      | some written =>
          match written.rename? (partialPath path) path with
          | none => .error ⟨.destination path, written⟩
          | some moved => .ok moved

end AddonPackager.Archive
