import AddonPackager.FileTree.Tree
import AddonPackager.Metadata.Basic
import AddonPackager.Package.Basic
import AddonPackager.Text.Search

/-! Reading files and directories into a package. Whatever is read is offered, so what is there
already stays.
-/

namespace AddonPackager

/-- The archive path of an entry of a directory. -/
def PathFilter.below (path name : String) : String :=
  if path = "" then name else path ++ "/" ++ name

/-- The admitted files of a directory with their archive paths, directory by directory in the
order of names. A directory that is not admitted is passed over as a whole.
-/
def PathFilter.admitted (filter : PathFilter) (path : String)
    : Entries → List (String × ByteArray)
  | [] => []
  | (name, .file content) :: rest =>
      let here := if filter.admits (below path name) then [(below path name, content)] else []
      here ++ admitted filter path rest
  | (name, .directory inner) :: rest =>
      let inside :=
        if filter.admits (below path name) then admitted filter (below path name) inner else []
      inside ++ admitted filter path rest
termination_by entries => sizeOf entries

/-- The filter for an add-on whose directory has some entries: the entries of every package, and
the scripts and markup files next to them.
-/
def PathFilter.ofEntries (entries : Entries) : PathFilter :=
  let isExtra := fun name => Text.endsWith name ".js" || Text.endsWith name ".xml"
  ⟨packageEntries ++ (Assoc.names entries).filter isExtra, ignoredSegments⟩

/-- The filter for an add-on in a directory. -/
def PathFilter.forPackage (tree : FileTree) (base : DiskPath) : Except BuildError PathFilter :=
  match tree.list? base with
  | some entries => .ok (.ofEntries entries)
  | none => .error (.unlistable base)

namespace Package

/-- Reads a file under an archive path, or a directory below one. Entries of the directory named
in `skip` are left out.
-/
def read (package : Package) (tree : FileTree) (source : DiskPath) (path : String)
    (skip : List String) : Except Failure Package :=
  match tree.lookup? source with
  | some (.file content) => .ok (package.offer path content)
  | some (.directory entries) =>
      .ok (package.offerAll (package.filter.admitted path
        (entries.filter fun entry => !skip.contains entry.1)))
  | none => .error ⟨.unreadable source, package⟩

/-! Mapped files -/

/-- Where a mapped file comes from: the value names it from the directory of the metadata file. -/
def mappedSource (item : MetadataItem) : DiskPath :=
  item.sourceDirectory ++ DiskPath.ofSlashed item.value

/-- Whether a mapping is looked at: a target inside a directory has to be admitted. -/
def isMapped (filter : PathFilter) (target : String) : Bool :=
  !target.toList.contains '/' || filter.admits target

/-- Reads the source of a mapping under its target. A missing source is a warning. -/
def readMappedItem (package : Package) (tree : FileTree) (item : MetadataItem) : Package :=
  if isMapped package.filter item.key then
    match package.read tree (mappedSource item) item.key [] with
    | .ok changed => changed
    | .error _ => package.warn (.missingSource item.key item.value)
  else
    package

/-- Reads the sources of mappings in order. -/
def readMapped (package : Package) (tree : FileTree) (items : List MetadataItem) : Package :=
  items.foldl (fun package item => package.readMappedItem tree item) package

end Package

end AddonPackager
