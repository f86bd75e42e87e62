import AddonPackager.Dict

/-! Messages by key as a catalog gathers them: in the order in which their keys first appear, with
an index that tells the position of a key. A catalog that has been read keeps the entries only, among
which lookups find what they find through the index.
-/

namespace AddonPackager.Catalog

/-- Messages with the position of each key among them. -/
structure Table where
  entries : List (String × String)
  index : Dict Nat

namespace Table

def empty : Table :=
  ⟨[], .empty⟩

/-- Gives a key a message: where the index says, or at the end if the key is new. -/
def insert (table : Table) (key value : String) : Table :=
  match table.index.get? key with
  | some position =>
      { table with
        entries := table.entries.modify position fun entry => (entry.1, value) }
  | none => ⟨table.entries ++ [(key, value)], table.index.insert key table.entries.length⟩

/-- The table of a list of entries, which are inserted one after the other. -/
def ofEntries (entries : List (String × String)) : Table :=
  entries.foldl (fun table entry => table.insert entry.1 entry.2) empty

/-- The message of a key, which is read where the index says. -/
def get? (table : Table) (key : String) : Option String :=
  (table.index.get? key).bind fun position => (table.entries[position]?).map Prod.snd

def contains (table : Table) (key : String) : Bool :=
  table.index.contains key

end Table

end AddonPackager.Catalog
