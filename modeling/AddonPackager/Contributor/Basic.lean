import AddonPackager.Contributor.Names
import AddonPackager.FileTree.Tree
import AddonPackager.Metadata.Basic
import AddonPackager.Package.Warning

/-! The contributors of an add-on. Options with numeric names are names themselves; any other
option points to an attribute of a markup file that lists names.
-/

namespace AddonPackager.Contributor

open Text Unicode

def sectionName : String := "contributors"

/-- Where names are listed: an attribute of the tags of a name in a file. -/
structure Location where
  file : List Char
  tag : List Char
  attributeName : List Char
  deriving DecidableEq, Repr

/-- Reads a location of the form `file //tag/@attribute`. -/
def Location.parse? (value : List Char) : Option Location :=
  match words value with
  | [file, target] => do
      let named ← stripPrefix? ['/', '/'] target
      let (tag, rest) ← splitOnce '/' named
      let attributeName ← stripPrefix? ['@'] rest
      guard (!tag.isEmpty && !attributeName.isEmpty)
      some ⟨file, tag, attributeName⟩
  | _ => none

/-- What an option contributes. -/
inductive Source where
  | literal (name : String)
  | harvested (location : Location)
  | unrecognized
  deriving DecidableEq, Repr

/-- Reads an option. A name of digits only is a literal. -/
def Source.ofItem (item : MetadataItem) : Source :=
  if item.key.toList.all Char.isDigit then
    .literal item.value
  else
    match Location.parse? item.value.toList with
    | some location => .harvested location
    | none => .unrecognized

def harvest (tree : FileTree) (item : MetadataItem) (location : Location)
    : Except BuildError (List String) :=
  let path := item.sourceDirectory ++ DiskPath.ofSlashed (String.ofList location.file)
  match tree.readText? path with
  | some text => .ok (attributeValues text.toList location.tag location.attributeName)
  | none => .error (.contributorsUnreadable path)

/-- What has been gathered from options: literal names, harvested names and warnings. -/
structure Gathered where
  literals : List String
  names : List String
  warnings : List Warning

def gather (tree : FileTree) (gathered : Gathered) (item : MetadataItem)
    : Except BuildError Gathered :=
  match Source.ofItem item with
  | .literal name => .ok { gathered with literals := gathered.literals ++ [name] }
  | .harvested location =>
      (harvest tree item location).map fun names =>
        { gathered with names := gathered.names ++ names }
  | .unrecognized =>
      .ok { gathered with
        warnings := gathered.warnings ++ [.unrecognizedContributor item.key item.value] }

/-- The options of the section in ascending order of their names. -/
def sortedItems (metadata : Metadata) : List MetadataItem :=
  (metadata.items sectionName).mergeSort fun a b => a.key ≤ b.key

/-- The contributors, literal names in option order and then the harvested ones sorted, with the
warnings about options that are not understood.
-/
def read (tree : FileTree) (metadata : Metadata)
    : Except BuildError (List String × List Warning) :=
  ((sortedItems metadata).foldlM (gather tree) ⟨[], [], []⟩).map fun gathered =>
    (gathered.literals ++ sortNames gathered.names, gathered.warnings)

end AddonPackager.Contributor
