import AddonPackager.Build.Error
import AddonPackager.Dict
import AddonPackager.Package.Filter
import AddonPackager.Package.Warning

/-! The contents of a package while it is put together. Everything that is stored goes through
the transforms of the package.
-/

namespace AddonPackager

/-- What happens to the bytes that are stored under an archive path. -/
abbrev Transform := String → ByteArray → ByteArray

/-- Files by archive path, with the warnings so far. -/
structure Package where
  filter : PathFilter
  transforms : List Transform
  entries : Dict ByteArray
  warnings : List Warning

/-- Why an edit of a package ended early, and the package as far as the edit had come. -/
structure Package.Failure where
  cause : BuildError
  package : Package

namespace Package

def empty (filter : PathFilter) : Package :=
  ⟨filter, [], .empty, []⟩

/-- The package with one more transform, applied after the others. -/
def withTransform (package : Package) (transform : Transform) : Package :=
  { package with transforms := package.transforms ++ [transform] }

/-! Contents -/

def get? (package : Package) (path : String) : Option ByteArray :=
  package.entries.get? path

def contains (package : Package) (path : String) : Bool :=
  package.entries.contains path

def paths (package : Package) : List String :=
  package.entries.keys

/-- The files in ascending order of their paths. -/
def files (package : Package) : List (String × ByteArray) :=
  package.entries.toList

/-! Changes -/

/-- The bytes that storing some bytes comes to. -/
def transformed (package : Package) (path : String) (data : ByteArray) : ByteArray :=
  package.transforms.foldl (fun data transform => transform path data) data

/-- Stores a file, replacing an older one. -/
def put (package : Package) (path : String) (data : ByteArray) : Package :=
  { package with entries := package.entries.insert path (package.transformed path data) }

def putText (package : Package) (path text : String) : Package :=
  package.put path text.toUTF8

/-- Stores a file with more bytes at its end; a file that is not there counts as empty. -/
def append (package : Package) (path : String) (extra : ByteArray) : Package :=
  package.put path ((package.get? path).getD .empty ++ extra)

/-- The package with one more warning. -/
def warn (package : Package) (warning : Warning) : Package :=
  { package with warnings := package.warnings ++ [warning] }

def warnAll (package : Package) (warnings : List Warning) : Package :=
  warnings.foldl warn package

/-- Stores a file unless its path is taken, which is a conflict. -/
def offer (package : Package) (path : String) (data : ByteArray) : Package :=
  if package.contains path then package.warn (.conflict path) else package.put path data

def offerAll (package : Package) (files : List (String × ByteArray)) : Package :=
  files.foldl (fun package file => package.offer file.1 file.2) package

end Package

end AddonPackager
