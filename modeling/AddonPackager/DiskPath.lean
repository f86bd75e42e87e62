import AddonPackager.Text.Split

/-! Paths on disk, kept as they were written. Reading a path goes through its components;
joining and shortening work on the text, so that messages show what the user wrote.
-/

namespace AddonPackager

/-- A path as written. Slashes separate its segments. -/
structure DiskPath where
  text : String
  deriving DecidableEq, Inhabited, Repr

namespace DiskPath

/-- One step of a path. -/
inductive Component where
  | root
  | here
  | parent
  | entry (name : String)
  deriving DecidableEq, Repr

def segments (path : DiskPath) : List String :=
  Text.pieces '/' path.text

/-- Segments that lead nowhere: empty ones and single dots. -/
def isIdle (segment : String) : Bool :=
  segment == "" || segment == "."

/-- A path starting with a slash. -/
def isAbsolute (path : DiskPath) : Bool :=
  match path.text.toList with
  | c :: _ => c == '/'
  | [] => false

/-- The anchor that a path starts with, a root or a leading dot, and the segments after it. -/
def anchor (path : DiskPath) : Option Component × List String :=
  match path.segments with
  | [] => (none, [])
  | first :: rest =>
      if path.isAbsolute then (some .root, rest)
      else if first == "." then (some .here, rest)
      else (none, first :: rest)

def Component.ofSegment (segment : String) : Component :=
  if segment == ".." then .parent else .entry segment

/-- The steps of a path. Idle segments count only as a leading dot. -/
def components (path : DiskPath) : List Component :=
  let (start, rest) := path.anchor
  start.toList ++ (rest.filter (!isIdle ·)).map Component.ofSegment

def Component.text : Component → String
  | .root => "/"
  | .here => "."
  | .parent => ".."
  | .entry name => name

/-- Segments without the idle ones at the end. -/
def dropIdleEnd (segments : List String) : List String :=
  (segments.reverse.dropWhile isIdle).reverse

/-- The text of a path with the given anchor. -/
def ofAnchor : Option Component → List String → DiskPath
  | some .root, rest => ⟨"/" ++ Text.join "/" rest⟩
  | some start, [] => ⟨start.text⟩
  | some start, rest => ⟨Text.join "/" (start.text :: rest)⟩
  | none, rest => ⟨Text.join "/" rest⟩

/-- The path without its last component, if it has one that is not the root. -/
def parent? (path : DiskPath) : Option DiskPath :=
  let (start, rest) := path.anchor
  match dropIdleEnd rest, start with
  -- A leading dot is a component of its own, so something stands above it.
  | [], some .here => some ⟨""⟩
  -- Nothing stands above the root and the empty path.
  | [], _ => none
  | kept, _ => some (ofAnchor start (dropIdleEnd kept.dropLast))

/-- The directory that holds what the path names; nothing is above the empty path. -/
def directory (path : DiskPath) : DiskPath :=
  path.parent?.getD ⟨""⟩

/-- The last component, if it is a name. -/
def fileName? (path : DiskPath) : Option String :=
  match path.components.getLast? with
  | some (.entry name) => some name
  | _ => none

/-- A file name up to its last dot; a name whose only dot comes first is all stem. -/
def stem (name : String) : String :=
  match name.toList.reverse.span (· != '.') with
  | (_, _ :: before) =>
      if before.isEmpty then name else String.ofList before.reverse
  | (_, []) => name

def fileStem (path : DiskPath) : String :=
  (path.fileName?.map stem).getD ""

/-- `path` below `base`; an absolute path stands for itself, and `base` gets a slash unless it
is empty or ends with one.
-/
def append (base path : DiskPath) : DiskPath :=
  if path.isAbsolute || base.text == "" then
    path
  else if base.text.toList.getLast? = some '/' then
    ⟨base.text ++ path.text⟩
  else
    ⟨base.text ++ "/" ++ path.text⟩

instance : Append DiskPath := ⟨append⟩

/-- A single segment as a path. -/
instance : Coe String DiskPath := ⟨DiskPath.mk⟩

/-- The path without the slashes at its end. -/
def withoutEndSlashes (path : DiskPath) : DiskPath :=
  ⟨String.ofList (path.text.toList.reverse.dropWhile (· == '/')).reverse⟩

/-- The path built by joining parts one after the other. -/
def ofParts (parts : List String) : DiskPath :=
  parts.foldl (fun path part => path ++ DiskPath.mk part) ⟨""⟩

/-- The relative path that a slash separated text names. -/
def ofSlashed (text : String) : DiskPath :=
  ofParts (Text.pieces '/' text)

/-- The path with another last component; a path without one is extended. -/
def withFileName (path : DiskPath) (name : String) : DiskPath :=
  match path.fileName? with
  | some _ => path.directory ++ DiskPath.mk name
  | none => path ++ DiskPath.mk name

/-- What follows `start` in a list of components that begins with it. -/
def stripComponents? : List Component → List Component → Option (List Component)
  | [], path => some path
  | _ :: _, [] => none
  | s :: start, c :: path => if s = c then stripComponents? start path else none

/-- The slash separated name of `path` inside a package rooted at `base`. A path elsewhere keeps
all its components.
-/
def archiveName (path base : DiskPath) : String :=
  let inside := (stripComponents? base.components path.components).getD path.components
  Text.join "/" (inside.map Component.text)

end DiskPath

end AddonPackager
