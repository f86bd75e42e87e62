import AddonPackager.DiskPath
import AddonPackager.FileTree.WellFormed

/-! The file tree a build runs in. Its root is the working directory, and what is outside of that is
left out: an absolute path names nothing, and neither does a path with a double dot at the root. So
the results about builds are about projects, key files and libraries below the working directory.
Paths may have any length.
-/

namespace AddonPackager

/-- A well-formed root directory. -/
structure FileTree where
  root : Entries
  wellFormed : root.WellFormed

/-- Why a path leads nowhere. -/
inductive PathFault where
  /-- A name on the way does not exist. -/
  | missing
  /-- A file stands where a directory is needed. -/
  | blocked
  deriving DecidableEq, Repr

namespace FileTree

def empty : FileTree :=
  ⟨[], Entries.wellFormed_nil⟩

instance : Inhabited FileTree := ⟨empty⟩

/-! Reading -/

def node? (tree : FileTree) (location : Location) : Option Node :=
  if location = [] then some (.directory tree.root) else tree.root.at? location

/-- One step of a path from a location. -/
def step (tree : FileTree) (location : Location) (segment : String)
    : Except PathFault Location :=
  match tree.root.below? location with
  | none => .error .blocked
  | some entries =>
      if DiskPath.isIdle segment then .ok location
      else if segment = ".." then
        -- What is above the root is not part of the tree.
        if location = [] then .error .missing else .ok location.dropLast
      else
        match entries.get? segment with
        | some _ => .ok (location ++ [segment])
        | none => .error .missing

def follow (tree : FileTree) (segments : List String) : Except PathFault Location :=
  segments.foldlM tree.step []

/-- The location a path names. The empty path names nothing. -/
def locate (tree : FileTree) (path : DiskPath) : Except PathFault Location :=
  if path.text = "" || path.isAbsolute then .error .missing else tree.follow path.segments

/-- The node a path names. -/
def lookup? (tree : FileTree) (path : DiskPath) : Option Node :=
  match tree.locate path with
  | .ok location => tree.node? location
  | .error _ => none

/-- The bytes of the file a path names. -/
def read? (tree : FileTree) (path : DiskPath) : Option ByteArray :=
  match tree.lookup? path with
  | some (.file content) => some content
  | _ => none

/-- The entries of the directory a path names. -/
def list? (tree : FileTree) (path : DiskPath) : Option Entries :=
  match tree.lookup? path with
  | some (.directory entries) => some entries
  | _ => none

/-- Whether a path names anything. -/
def holds (tree : FileTree) (path : DiskPath) : Bool :=
  (tree.lookup? path).isSome

def isFile (tree : FileTree) (path : DiskPath) : Bool :=
  (tree.read? path).isSome

def isDirectory (tree : FileTree) (path : DiskPath) : Bool :=
  (tree.list? path).isSome

/-- The text of the file a path names. -/
def readText? (tree : FileTree) (path : DiskPath) : Option String :=
  (tree.read? path).bind String.fromUTF8?

/-- Every file below some entries with its location, in the order of the entries. -/
def filesBelow (above : Location) : Entries → List (Location × ByteArray)
  | [] => []
  | (name, .file content) :: rest => (above ++ [name], content) :: filesBelow above rest
  | (name, .directory inner) :: rest =>
      filesBelow (above ++ [name]) inner ++ filesBelow above rest
termination_by entries => sizeOf entries

/-- Every file of the tree with its location. -/
def files (tree : FileTree) : List (Location × ByteArray) :=
  filesBelow [] tree.root

/-! Writing -/

/-- Puts a node under a proper name into an existing directory. -/
def put? (tree : FileTree) (directory : Location) (name : String) (node : Node)
    (nodeWellFormed : node.WellFormed) : Option FileTree :=
  if proper : isEntryName name = true then
    match done : tree.root.put? name node directory with
    | some root => some ⟨root, tree.wellFormed.put? proper nodeWellFormed done⟩
    | none => none
  else
    none

/-- Takes a name out of an existing directory. -/
def remove? (tree : FileTree) (directory : Location) (name : String) : Option FileTree :=
  match done : tree.root.remove? name directory with
  | some root => some ⟨root, tree.wellFormed.remove? done⟩
  | none => none

/-- The directory and the name under which a path would create an entry. -/
def target (tree : FileTree) (path : DiskPath) : Except PathFault (Location × String) :=
  match path.segments.reverse with
  | name :: above =>
      if path.isAbsolute || !isEntryName name then
        .error .blocked
      else
        (tree.follow above.reverse).bind fun directory =>
          match tree.root.below? directory with
          | some _ => .ok (directory, name)
          | none => .error .blocked
  | [] => .error .blocked

/-- Creates a file or replaces its bytes. The path of a directory is refused. -/
def write? (tree : FileTree) (path : DiskPath) (content : ByteArray) : Option FileTree :=
  match tree.target path with
  | .ok (directory, name) =>
      match tree.node? (directory ++ [name]) with
      | some (.directory _) => none
      | _ => tree.put? directory name (.file content) (.file content)
  | .error _ => none

/-- Moves a file, replacing a file at the destination. -/
def rename? (tree : FileTree) (source destination : DiskPath) : Option FileTree :=
  match tree.read? source, tree.target source with
  | some content, .ok (directory, name) =>
      (tree.write? destination content).bind fun moved => moved.remove? directory name
  | _, _ => none

/-- What making a directory comes to. -/
inductive Made where
  | made (tree : FileTree)
  /-- The directory above is missing. -/
  | missing
  | refused

/-- Makes one directory. Its path may end in slashes. -/
def makeDirectory (tree : FileTree) (path : DiskPath) : Made :=
  match tree.locate path, tree.target path.withoutEndSlashes with
  | .ok _, _ => .refused
  | .error .blocked, _ => .refused
  | .error .missing, .ok (directory, name) =>
      match tree.put? directory name (.directory []) Entries.wellFormed_nil with
      | some changed => .made changed
      | none => .refused
  | .error .missing, .error .missing => .missing
  | .error .missing, .error .blocked => .missing

/-- Makes the first directory of a list, where the list goes on with the directories above it,
which are made first if need be.
-/
def makeDirectoryAlong (tree : FileTree) : List DiskPath → Option FileTree
  | [] => none
  | path :: above =>
      if path.text = "" then
        some tree
      else
        match tree.makeDirectory path with
        | .made changed => some changed
        -- A directory that is there already is as good as a new one.
        | .refused => if tree.isDirectory path then some tree else none
        | .missing =>
            (tree.makeDirectoryAlong above).bind fun changed =>
              -- A path such as `a/..` names a directory once `a` is there.
              match changed.makeDirectory path with
              | .made result => some result
              | _ => if changed.isDirectory path then some changed else none

/-- A path and what stands above it, nearest first. -/
def ancestors : Nat → DiskPath → List DiskPath
  | 0, _ => []
  | steps + 1, path =>
      path :: match path.parent? with
        | some above => ancestors steps above
        | none => []

/-- Makes a directory and all missing ones above it. -/
def makeDirectories? (tree : FileTree) (path : DiskPath) : Option FileTree :=
  tree.makeDirectoryAlong (ancestors (path.segments.length + 1) path)

end FileTree

end AddonPackager
