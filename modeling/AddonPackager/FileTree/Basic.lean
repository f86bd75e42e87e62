import AddonPackager.Assoc

/-! Directory trees as values. The entries of a directory are in ascending order of their
names, so equal trees list equally. Names are texts, and a node is a file that can be read or a
directory that can be listed: links, permissions, and names that are not text, are left out.
-/

namespace AddonPackager

/-- A file with its bytes, or a directory with its entries. -/
inductive Node where
  | file (content : ByteArray)
  | directory (entries : List (String × Node))
  deriving Inhabited

abbrev Entries := List (String × Node)

/-- The names on the way from the root to a node. -/
abbrev Location := List String

def isEntryName (name : String) : Bool :=
  name != "" && name != "." && name != ".." && !name.toList.contains '/'

/-- Every directory has proper names in strictly ascending order. -/
inductive Node.WellFormed : Node → Prop
  | file (content : ByteArray) : WellFormed (.file content)
  | directory (entries : Entries)
      (ascending : Assoc.Ascending entries)
      (named : ∀ entry ∈ entries, isEntryName entry.1 = true)
      (inner : ∀ entry ∈ entries, WellFormed entry.2)
      : WellFormed (.directory entries)

namespace Entries

def get? (name : String) (entries : Entries) : Option Node :=
  Assoc.get? name entries

/-- The entries with one more or one replaced, in order. -/
def set (name : String) (node : Node) (entries : Entries) : Entries :=
  Assoc.place name node entries

def erase (name : String) (entries : Entries) : Entries :=
  Assoc.erase name entries

/-- The node at a location below these entries; the empty location names no entry. -/
def at? : Location → Entries → Option Node
  | [], _ => none
  | [name], entries => entries.get? name
  | name :: next :: rest, entries =>
      match entries.get? name with
      | some (.directory inner) => at? (next :: rest) inner
      | _ => none

/-- The entries of the directory at a location. -/
def below? : Location → Entries → Option Entries
  | [], entries => some entries
  | name :: rest, entries =>
      match entries.get? name with
      | some (.directory inner) => below? rest inner
      | _ => none

/-- The entries with a node put under a name into the directory at a location. -/
def put? (name : String) (node : Node) : Location → Entries → Option Entries
  | [], entries => some (entries.set name node)
  | d :: rest, entries =>
      match entries.get? d with
      | some (.directory inner) => (put? name node rest inner).map fun inner =>
          entries.set d (.directory inner)
      | _ => none

/-- The entries with a name taken out of the directory at a location. -/
def remove? (name : String) : Location → Entries → Option Entries
  | [], entries => some (entries.erase name)
  | d :: rest, entries =>
      match entries.get? d with
      | some (.directory inner) => (remove? name rest inner).map fun inner =>
          entries.set d (.directory inner)
      | _ => none

end Entries

end AddonPackager
