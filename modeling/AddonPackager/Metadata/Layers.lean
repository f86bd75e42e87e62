import AddonPackager.FileTree.Listing
import AddonPackager.Metadata.Basic
import AddonPackager.Metadata.OptionFile

/-! Layered metadata files. A file may inherit from others, which are read before its own options
so that its own options win. A file that inherits from itself, over however many files, is an
error; a file that is inherited twice is not.
-/

namespace AddonPackager

namespace Metadata

/-! Reading -/

/-- The section and the option that name the inherited files. -/
def inheritSection : String := "default"

/-- The option that names the inherited files. -/
def inheritOption : String := "inherit"

/-- The files that a file inherits from, in order, relative to its directory. -/
def inherited (file : OptionFile) (path : DiskPath) : List DiskPath :=
  match file.value? inheritSection inheritOption with
  | some names => (Text.wordsOf names).map fun name => path.directory ++ DiskPath.ofSlashed name
  | none => []

/-- The options of a file with their sections, without the one that names inherited files. -/
def ownOptions (file : OptionFile) : List (String × String × String) :=
  (file.sections.flatMap fun found => found.options.map fun (key, value) =>
    (found.name, key, value)).filter fun (name, key, _) =>
      !(name == inheritSection && key == inheritOption)

def applyFile (metadata : Metadata) (file : OptionFile) (source : DiskPath) : Metadata :=
  (ownOptions file).foldl (fun metadata (name, key, value) =>
    metadata.apply name key value source) metadata

/-- The number of files that are not open. -/
def closedFiles (tree : FileTree) (openFiles : List Location) : Nat :=
  tree.files.countP fun (location, _) => !openFiles.contains location

/-- A stricter condition that some member fails holds of fewer members, by list induction. -/
theorem countP_lt_countP {α : Type} {strict loose : α → Bool} {list : List α} {member : α}
    (weaker : ∀ a, strict a = true → loose a = true) (listed : member ∈ list)
    (holds : loose member = true) (fails : strict member = false)
    : list.countP strict < list.countP loose := by
  induction list with
  | nil => simp at listed
  | cons head rest ih =>
      have tail : rest.countP strict ≤ rest.countP loose :=
        List.countP_mono_left fun a _ => weaker a
      rw [List.countP_cons, List.countP_cons]
      rcases List.mem_cons.mp listed with h | h
      · subst h
        simp only [holds, fails, Bool.false_eq_true, if_false, if_true]
        omega
      · have := ih h
        split
        · rename_i strictHead
          simp only [weaker head strictHead, if_true]
          omega
        · omega

/-- Opening a file leaves fewer closed ones. -/
theorem closedFiles_cons_lt {tree : FileTree} {openFiles : List Location} {location : Location}
    {content : ByteArray} (listed : (location, content) ∈ tree.files)
    (closed : location ∉ openFiles)
    : closedFiles tree (location :: openFiles) < closedFiles tree openFiles := by
  refine countP_lt_countP (fun entry h => ?_) listed ?_ ?_ <;> simp_all

/-- Reads a file on top of some metadata, where `openFiles` are the files that led to it. -/
def readLayer (tree : FileTree) (openFiles : List Location) (path : DiskPath)
    (metadata : Metadata) : Except BuildError Metadata :=
  match tree.locate path with
  | .error _ => .error (.metadataNotFound path)
  | .ok location =>
      if cyclic : location ∈ openFiles then
        .error (.metadataCycle path)
      else
        match found : tree.node? location with
        | some (.file content) =>
            match OptionFile.ofBytes? content with
            | some file =>
                -- The file is now open, so fewer files are left to open further down.
                have := closedFiles_cons_lt (FileTree.mem_files_of_node? found) cyclic
                ((inherited file path).foldlM (fun metadata parent =>
                  readLayer tree (location :: openFiles) parent metadata) metadata).map
                  fun metadata => metadata.applyFile file path
            | none => .error (.metadataNotParsed path)
        | _ => .error (.metadataNotParsed path)
termination_by closedFiles tree openFiles

/-- Reads a metadata file with everything it inherits. -/
def read (tree : FileTree) (path : DiskPath) : Except BuildError Metadata :=
  readLayer tree [] path empty

end Metadata

end AddonPackager
