import AddonPackager.Assoc
import AddonPackager.Build.Error
import AddonPackager.Dict
import AddonPackager.Text.Trim

/-! Metadata: sections of items. Every item remembers the file it was last defined in, which is
what relative paths in its value are resolved against.
-/

namespace AddonPackager

/-- A value and the file that gave it. -/
structure MetadataValue where
  value : String
  source : DiskPath
  deriving DecidableEq, Repr

/-- An item of a section. -/
structure MetadataItem extends MetadataValue where
  key : String
  deriving DecidableEq, Repr

/-- The directory that relative paths in the value start from. -/
def MetadataItem.sourceDirectory (item : MetadataItem) : DiskPath :=
  item.source.directory

/-- Sections and their items, each in the order of first definition. -/
structure Metadata where
  sections : List (String × List (String × MetadataValue))
  deriving DecidableEq, Repr

namespace Metadata

def empty : Metadata :=
  ⟨[]⟩

instance : Inhabited Metadata := ⟨empty⟩

/-! Lookup -/

/-- The values of a section by key; none if there is no such section. -/
def values (metadata : Metadata) (sectionName : String) : List (String × MetadataValue) :=
  (Assoc.get? sectionName metadata.sections).getD []

def items (metadata : Metadata) (sectionName : String) : List MetadataItem :=
  (metadata.values sectionName).map fun (key, value) => ⟨value, key⟩

def item? (metadata : Metadata) (sectionName key : String) : Option MetadataItem :=
  (metadata.items sectionName).find? (·.key == key)

/-- Whether a section has been defined. -/
def hasSection (metadata : Metadata) (sectionName : String) : Bool :=
  (Assoc.get? sectionName metadata.sections).isSome

/-- The value of an option. -/
def get? (metadata : Metadata) (sectionName key : String) : Option String :=
  (Assoc.get? key (metadata.values sectionName)).map (·.value)

/-- The value of an option that has to be there. -/
def get (metadata : Metadata) (sectionName key : String) : Except BuildError String :=
  match metadata.get? sectionName key with
  | some value => .ok value
  | none => .error (.missingMetadata sectionName key)

/-- The values by section and key, in ascending order. -/
def toDict (metadata : Metadata) : Dict (Dict String) :=
  Dict.ofList (metadata.sections.map fun (name, values) =>
    (name, Dict.ofList (values.map fun (key, value) => (key, value.value))))

/-! Definition -/

/-- Defines an option; an older definition is replaced in its place. -/
def set (metadata : Metadata) (sectionName key value : String) (source : DiskPath) : Metadata :=
  ⟨Assoc.set sectionName (Assoc.set key ⟨value, source⟩ (metadata.values sectionName))
    metadata.sections⟩

/-- What an option of a metadata file does to the value of its key. -/
inductive Change where
  | define
  /-- Appends words. -/
  | add
  /-- Takes words out. -/
  | remove
  deriving DecidableEq, Repr

/-- The key that an option name stands for and what happens to it: a name ending in a plus adds,
one ending in a minus removes.
-/
def readName (name : List Char) : Change × List Char :=
  match name.reverse with
  | '+' :: key => (.add, Text.trimEnd key.reverse)
  | '-' :: key => (.remove, Text.trimEnd key.reverse)
  | _ => (.define, name)

/-- The value of an option after a change. -/
def changedValue (change : Change) (old : Option String) (value : String) : String :=
  let oldWords := (old.map Text.wordsOf).getD []
  match change with
  | .define => Text.trimmed value
  | .add => " ".intercalate (oldWords ++ Text.wordsOf value)
  | .remove => " ".intercalate (oldWords.filter (!(Text.wordsOf value).contains ·))

/-- Applies an option of a metadata file. -/
def apply (metadata : Metadata) (sectionName name value : String) (source : DiskPath) : Metadata :=
  let (change, key) := readName (Text.trim name.toList)
  let key := String.ofList key
  metadata.set sectionName key (changedValue change (metadata.get? sectionName key) value) source

end Metadata

end AddonPackager
