import AddonPackager.Proofs.Dict.Lookup
import AddonPackager.Proofs.FileTree.Descending

/-! What stands where in a tree. A change of a tree is described by what it does to each location,
and a path leads to the same place as long as directories stay where they are.
-/

namespace AddonPackager

/-- A node without what stands below it. -/
inductive Shape where
  | file (content : ByteArray)
  | directory

-----------------------------------------------------------------------------------------
-- Below a node
-----------------------------------------------------------------------------------------

namespace Node

variable {node : Node} {location rest : Location} {name next : String} {entries : Entries}

def shape : Node → Shape
  | .file content => .file content
  | .directory _ => .directory

/-- What stands at a location below a node. -/
def shapeAt? : Location → Node → Option Shape
  | [], node => some node.shape
  | name :: rest, .directory entries => (Entries.get? name entries).bind (shapeAt? rest)
  | _ :: _, .file _ => none

@[simp] theorem shapeAt?_nil : node.shapeAt? [] = some node.shape := by
  cases node <;> rfl

theorem shapeAt?_cons
    : (directory entries).shapeAt? (name :: rest)
      = (Entries.get? name entries).bind (shapeAt? rest) :=
  rfl

/-- Nothing stands below a node. -/
def IsLeaf (node : Node) : Prop :=
  ∀ name rest, node.shapeAt? (name :: rest) = none

theorem isLeaf_file {content : ByteArray} : (file content).IsLeaf :=
  fun _ _ => rfl

theorem isLeaf_directory : (directory []).IsLeaf :=
  fun _ _ => rfl

/-- Where no directory stands, nothing stands below. -/
theorem shapeAt?_eq_none (noDirectory : (directory entries).shapeAt? [name] ≠ some .directory)
    : (directory entries).shapeAt? (name :: next :: rest) = none := by
  rw [shapeAt?_cons] at noDirectory ⊢
  cases old : Entries.get? name entries with
  | none => rfl
  | some child =>
      cases child with
      | file content => rfl
      | directory inner =>
          rw [old] at noDirectory
          exact absurd shapeAt?_nil noDirectory

/-- Setting a leaf where no directory stands changes that place only. -/
theorem shapeAt?_set (leaf : node.IsLeaf)
    (noDirectory : (directory entries).shapeAt? [name] ≠ some .directory)
    : (directory (entries.set name node)).shapeAt? location
      = if location = [name] then some node.shape else (directory entries).shapeAt? location := by
  cases location with
  | nil => simp [shape]
  | cons first rest =>
      have found : Entries.get? first (entries.set name node)
          = if name = first then some node else Entries.get? first entries :=
        Assoc.get?_place
      rw [shapeAt?_cons, found]
      by_cases here : name = first
      · subst here
        cases rest with
        | nil => simp
        | cons next others =>
            rw [if_pos rfl, if_neg (by simp), shapeAt?_eq_none noDirectory]
            exact leaf next others
      · rw [if_neg here, if_neg (by simp [Ne.symm here]), shapeAt?_cons]

/-- Erasing what is no directory changes its place only. -/
theorem shapeAt?_erase (noDirectory : (directory entries).shapeAt? [name] ≠ some .directory)
    : (directory (entries.erase name)).shapeAt? location
      = if location = [name] then none else (directory entries).shapeAt? location := by
  cases location with
  | nil => simp [shape]
  | cons first rest =>
      rw [shapeAt?_cons]
      by_cases here : name = first
      · subst here
        have gone : Entries.get? name (entries.erase name) = none := Assoc.get?_erase_self
        rw [gone]
        cases rest with
        | nil => simp
        | cons next others =>
            rw [if_neg (by simp), shapeAt?_eq_none noDirectory]
            rfl
      · have kept : Entries.get? first (entries.erase name) = Entries.get? first entries :=
          Assoc.get?_erase_of_ne (Ne.symm here)
        rw [kept, if_neg (by simp [Ne.symm here]), shapeAt?_cons]

end Node

-----------------------------------------------------------------------------------------
-- Edits
-----------------------------------------------------------------------------------------

namespace Entries

variable {entries changed : Entries} {location above : Location} {name : String} {node : Node}
  {edit : Entries → Entries} {result : Option Shape}

/-- The entries with the directory at a location edited. -/
def edit? (edit : Entries → Entries) : Location → Entries → Option Entries
  | [], entries => some (edit entries)
  | d :: rest, entries =>
      match entries.get? d with
      | some (.directory inner) => (edit? edit rest inner).map fun inner =>
          entries.set d (.directory inner)
      | _ => none

theorem put?_eq_edit? : entries.put? name node above = entries.edit? (set name node) above := by
  induction above generalizing entries with
  | nil => rfl
  | cons d rest ih =>
      rw [put?, edit?]
      cases entries.get? d with
      | none => rfl
      | some child =>
          cases child with
          | file content => rfl
          | directory inner =>
              exact congrArg (Option.map fun inner => entries.set d (.directory inner)) ih

theorem remove?_eq_edit? : entries.remove? name above = entries.edit? (erase name) above := by
  induction above generalizing entries with
  | nil => rfl
  | cons d rest ih =>
      rw [remove?, edit?]
      cases entries.get? d with
      | none => rfl
      | some child =>
          cases child with
          | file content => rfl
          | directory inner =>
              exact congrArg (Option.map fun inner => entries.set d (.directory inner)) ih

/-- An edit that changes one place of a directory changes only that place of the whole tree, by
induction on the location of the directory.
-/
theorem shapeAt?_edit?
    (changes : ∀ {entries : Entries} {location : Location},
      (Node.directory entries).shapeAt? [name] ≠ some .directory →
      (Node.directory (edit entries)).shapeAt? location
        = if location = [name] then result else (Node.directory entries).shapeAt? location)
    (noDirectory : (Node.directory entries).shapeAt? (above ++ [name]) ≠ some .directory)
    (done : entries.edit? edit above = some changed)
    : (Node.directory changed).shapeAt? location
      = if location = above ++ [name] then result
        else (Node.directory entries).shapeAt? location := by
  induction above generalizing entries changed location with
  | nil =>
      cases done
      exact changes noDirectory
  | cons d rest ih =>
      rw [edit?] at done
      split at done
      · rename_i inner found
        obtain ⟨innerChanged, innerDone, rfl⟩ := Option.map_eq_some_iff.mp done
        rw [List.cons_append, Node.shapeAt?_cons, found, Option.bind_some] at noDirectory
        cases location with
        | nil => simp [Node.shape]
        | cons first more =>
            have reached : Entries.get? first (entries.set d (.directory innerChanged))
                = if d = first then some (.directory innerChanged)
                  else Entries.get? first entries :=
              Assoc.get?_place
            rw [Node.shapeAt?_cons, reached, Node.shapeAt?_cons]
            by_cases here : d = first
            · subst here
              rw [if_pos rfl, found, Option.bind_some, Option.bind_some, ih noDirectory innerDone]
              simp
            · rw [if_neg here, if_neg (by simp [Ne.symm here])]
      · simp at done

end Entries

-----------------------------------------------------------------------------------------
-- In a tree
-----------------------------------------------------------------------------------------

namespace FileTree

variable {tree changed before after : FileTree} {location place above : Location}
  {name segment : String} {segments : List String} {node : Node} {content : ByteArray}
  {path source destination : DiskPath}

/-- What stands at a location of a tree. -/
def shape? (tree : FileTree) (location : Location) : Option Shape :=
  (tree.node? location).map Node.shape

/-- What stands at a location is found by descending from the root, by induction on it. -/
theorem shape?_eq_shapeAt?
    : tree.shape? location = (Node.directory tree.root).shapeAt? location := by
  have general : ∀ {entries : Entries} {first : String} {rest : Location},
      (entries.at? (first :: rest)).map Node.shape
        = (Node.directory entries).shapeAt? (first :: rest) := by
    intro entries first rest
    induction rest generalizing entries first with
    | nil =>
        rw [Entries.at?, Node.shapeAt?_cons]
        cases entries.get? first <;> simp
    | cons next others ih =>
        rw [Entries.at?, Node.shapeAt?_cons]
        cases entries.get? first with
        | none => rfl
        | some child =>
            cases child with
            | file content => rfl
            | directory inner => exact ih
  cases location with
  | nil => rfl
  | cons first rest =>
      rw [shape?, node?, if_neg (by simp)]
      exact general

theorem shape?_eq_file_iff
    : tree.shape? location = some (.file content) ↔ tree.node? location = some (.file content) := by
  rw [shape?]
  cases tree.node? location with
  | none => simp
  | some node => cases node <;> simp [Node.shape]

theorem shape?_eq_directory_iff
    : tree.shape? location = some .directory
      ↔ ∃ entries, tree.root.below? location = some entries := by
  simp only [below?_eq_some_iff, shape?]
  cases tree.node? location with
  | none => simp
  | some node => cases node <;> simp [Node.shape]

theorem shape?_put? {nodeWellFormed : node.WellFormed} (leaf : node.IsLeaf)
    (noDirectory : tree.shape? (above ++ [name]) ≠ some .directory)
    (done : tree.put? above name node nodeWellFormed = some changed)
    : changed.shape? location
      = if location = above ++ [name] then some node.shape else tree.shape? location := by
  rw [put?] at done
  split at done
  · split at done
    · rename_i root rootDone
      cases done
      rw [shape?_eq_shapeAt?] at noDirectory
      rw [shape?_eq_shapeAt?, shape?_eq_shapeAt?]
      rw [Entries.put?_eq_edit?] at rootDone
      exact Entries.shapeAt?_edit? (Node.shapeAt?_set leaf) noDirectory rootDone
    · simp at done
  · simp at done

theorem shape?_remove? (noDirectory : tree.shape? (above ++ [name]) ≠ some .directory)
    (done : tree.remove? above name = some changed)
    : changed.shape? location
      = if location = above ++ [name] then none else tree.shape? location := by
  rw [remove?] at done
  split at done
  · rename_i root rootDone
    cases done
    rw [shape?_eq_shapeAt?] at noDirectory
    rw [shape?_eq_shapeAt?, shape?_eq_shapeAt?]
    rw [Entries.remove?_eq_edit?] at rootDone
    exact Entries.shapeAt?_edit? Node.shapeAt?_erase noDirectory rootDone
  · simp at done

end FileTree

end AddonPackager
