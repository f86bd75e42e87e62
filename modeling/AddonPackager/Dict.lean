import AddonPackager.Assoc

/-! Finite maps from strings, listed in ascending order of their keys, so that maps with the
same lookups have the same list.
-/

namespace AddonPackager

/-- Pairs in strictly ascending order of their keys. -/
structure Dict (α : Type) where
  toList : List (String × α)
  ascending : Assoc.Ascending toList

namespace Dict

variable {α β : Type}

/-- The map without keys. -/
def empty : Dict α :=
  ⟨[], .nil⟩

instance : Inhabited (Dict α) := ⟨empty⟩

def get? (dict : Dict α) (key : String) : Option α :=
  Assoc.get? key dict.toList

def contains (dict : Dict α) (key : String) : Bool :=
  (dict.get? key).isSome

/-- The map with a value given to a key. -/
def insert (dict : Dict α) (key : String) (value : α) : Dict α :=
  ⟨Assoc.place key value dict.toList, dict.ascending.place⟩

def keys (dict : Dict α) : List String :=
  Assoc.names dict.toList

def size (dict : Dict α) : Nat :=
  dict.toList.length

/-- The map of a list of pairs; of several values of a key the last one counts. -/
def ofList (pairs : List (String × α)) : Dict α :=
  pairs.foldl (fun dict pair => dict.insert pair.1 pair.2) empty

/-- The map with every value changed. -/
def map (f : α → β) (dict : Dict α) : Dict β :=
  ⟨dict.toList.map fun pair => (pair.1, f pair.2), by
    rw [Assoc.Ascending, List.pairwise_map]
    exact dict.ascending⟩

end Dict

end AddonPackager
