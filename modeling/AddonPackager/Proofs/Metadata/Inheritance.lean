import AddonPackager.Proofs.FileTree.Siblings
import AddonPackager.Proofs.Metadata.Layering
import Mathlib.Logic.Relation

/-! Metadata files that inherit from each other. The paths that lead from file to file may grow
without end, but a path enters into a file only through the file it leads to, so that reading fails
on a cycle of files and on nothing else, as long as all of the files are there.
-/

namespace AddonPackager.Metadata

open Relation (ReflTransGen TransGen)

variable {tree : FileTree} {openFiles : List Location} {path parent again closing : DiskPath}
  {metadata result : Metadata} {file other : Location} {data : ByteArray}

-----------------------------------------------------------------------------------------
-- Inheriting
-----------------------------------------------------------------------------------------

/-- The file at a path has a word of its option for inherited files that stands for another path. -/
def Mentions (tree : FileTree) (path parent : DiskPath) : Prop :=
  ∃ content options,
    tree.read? path = some content
    ∧ OptionFile.ofBytes? content = some options
    ∧ parent ∈ inherited options path

/-- A file inherits from another one, whatever the paths that lead to them. -/
def Inherits (tree : FileTree) (file other : Location) : Prop :=
  ∃ path parent,
    tree.locate path = .ok file ∧ Mentions tree path parent ∧ tree.locate parent = .ok other

/-- Some file, reached from a first one along inherited files, inherits from itself over one or more
files.
-/
def LeadsToCycle (tree : FileTree) (file : Location) : Prop :=
  ∃ other, ReflTransGen (Inherits tree) file other ∧ TransGen (Inherits tree) other other

/-- Every path that can be reached along inherited files leads to a file that can be parsed. -/
def IsComplete (tree : FileTree) (path : DiskPath) : Prop :=
  ∀ reached, ReflTransGen (Mentions tree) path reached →
    ∃ content options,
      tree.read? reached = some content ∧ OptionFile.ofBytes? content = some options

/-- A file that can be parsed mentions what its options inherit. -/
theorem mentions_iff {content : ByteArray} {options : OptionFile}
    (readable : tree.read? path = some content) (parsed : OptionFile.ofBytes? content = some options)
    : Mentions tree path parent ↔ parent ∈ inherited options path := by
  constructor
  · rintro ⟨contentAgain, optionsAgain, readAgain, parsedAgain, listed⟩
    cases readable.symm.trans readAgain
    cases parsed.symm.trans parsedAgain
    exact listed
  · exact fun listed => ⟨content, options, readable, parsed, listed⟩

/-- Paths are complete if each of them leads to a file that mentions such paths only. -/
theorem isComplete_of_closed (known : DiskPath → Prop)
    (closed : ∀ path, known path → ∃ content options,
      tree.read? path = some content
      ∧ OptionFile.ofBytes? content = some options
      ∧ ∀ parent ∈ inherited options path, known parent)
    (start : known path)
    : IsComplete tree path := by
  intro reached leads
  have reachedKnown : known reached := by
    induction leads with
    | refl => exact start
    | tail _ mentions ih =>
        obtain ⟨content, options, readable, parsed, parents⟩ := closed _ ih
        exact parents _ ((mentions_iff readable parsed).mp mentions)
  obtain ⟨content, options, readable, parsed, -⟩ := closed reached reachedKnown
  exact ⟨content, options, readable, parsed⟩

theorem IsComplete.of_mentions (complete : IsComplete tree path) (mentions : Mentions tree path parent)
    : IsComplete tree parent :=
  fun reached leads => complete reached (.head mentions leads)

theorem IsComplete.exists_location (complete : IsComplete tree path)
    : ∃ file, tree.locate path = .ok file := by
  obtain ⟨content, options, readable, -⟩ := complete path .refl
  cases located : tree.locate path with
  | ok file => exact ⟨file, rfl⟩
  | error fault => simp [FileTree.read?, FileTree.lookup?, located] at readable

theorem read?_of_node? {content : ByteArray} (located : tree.locate path = .ok file)
    (found : tree.node? file = some (.file content))
    : tree.read? path = some content := by
  simp [FileTree.read?, FileTree.lookup?, located, found]

/-- What is read at a path is the file that the path leads to. -/
theorem shape?_of_read? {content : ByteArray} (located : tree.locate path = .ok file)
    (readable : tree.read? path = some content)
    : tree.shape? file = some (.file content) := by
  rw [FileTree.shape?_eq_file_iff]
  rw [FileTree.read?, FileTree.lookup?, located] at readable
  split at readable
  · rename_i found
    cases readable
    exact found
  · cases readable

/-- A file mentions the same files, whichever path leads to it. -/
theorem Mentions.congr (mentions : Mentions tree path parent) (located : tree.locate path = .ok file)
    (alsoLocated : tree.locate again = .ok file) (leads : tree.locate parent = .ok other)
    (otherFile : tree.shape? other = some (.file data))
    : ∃ parentAgain, Mentions tree again parentAgain ∧ tree.locate parentAgain = .ok other := by
  obtain ⟨content, options, readable, parsed, listed⟩ := mentions
  have isFile := shape?_of_read? located readable
  have readAgain := read?_of_node? alsoLocated (FileTree.shape?_eq_file_iff.mp isFile)
  rw [inherited] at listed
  split at listed
  · rename_i names found
    obtain ⟨word, member, rfl⟩ := List.mem_map.mp listed
    refine ⟨again.directory ++ DiskPath.ofSlashed word, ⟨content, options, readAgain, parsed, ?_⟩,
      FileTree.locate_directory_append_congr located alsoLocated isFile leads otherFile⟩
    rw [inherited, found]
    exact List.mem_map_of_mem member
  · cases listed

/-- A file from which inheriting comes to an end leads to no cycle, by induction on the files
behind it.
-/
theorem not_leadsToCycle_of_acc (ends : Acc (fun next before => Inherits tree before next) file)
    : ¬ LeadsToCycle tree file := by
  induction ends with
  | intro file _ ih =>
      rintro ⟨other, leads, closes⟩
      rcases ReflTransGen.cases_head leads with rfl | ⟨next, inherits, later⟩
      · obtain ⟨next, inherits, later⟩ := TransGen.head'_iff.mp closes
        exact ih next inherits ⟨file, later, closes⟩
      · exact ih next inherits ⟨other, later, closes⟩

-----------------------------------------------------------------------------------------
-- Reading
-----------------------------------------------------------------------------------------

/-- Reading that stops at an open file has met a cycle through that file, by induction on the files
that are open on the way: each of them inherits the file that is read next.
-/
theorem exists_cycle_of_readLayer
    (ran : readLayer tree openFiles path metadata = .error (.metadataCycle closing))
    (above : ∀ file, tree.locate path = .ok file →
      ∀ opened ∈ openFiles, TransGen (Inherits tree) opened file)
    : ∃ file other,
        tree.locate path = .ok file
        ∧ tree.locate closing = .ok other
        ∧ ReflTransGen (Inherits tree) file other
        ∧ TransGen (Inherits tree) other other := by
  fun_induction readLayer tree openFiles path metadata with
  | case2 openFiles path metadata file located opened =>
      cases ran
      exact ⟨file, file, located, located, .refl, above file located file opened⟩
  | case3 openFiles path metadata file located closed content found options parsed _ ih =>
      obtain ⟨parent, listed, before, failed⟩ :=
        exists_step_of_foldlM_error (error_of_map_eq_error ran)
      have mentions := (mentions_iff (read?_of_node? located found) parsed).mpr listed
      have inherits : ∀ next, tree.locate parent = .ok next → Inherits tree file next :=
        fun next leads => ⟨path, parent, located, mentions, leads⟩
      have aboveParent : ∀ next, tree.locate parent = .ok next →
          ∀ opened ∈ file :: openFiles, TransGen (Inherits tree) opened next := by
        intro next leads opened member
        rcases List.mem_cons.mp member with rfl | openBefore
        · exact .single (inherits next leads)
        · exact (above file located opened openBefore).tail (inherits next leads)
      obtain ⟨next, other, leads, stops, later, cycle⟩ := ih before parent failed aboveParent
      exact ⟨file, other, located, stops, .head (inherits next leads) later, cycle⟩
  | case1 => cases ran
  | case4 => cases ran
  | case5 => cases ran

/-- From a file that has been read, inheriting comes to an end, by induction on the files that are
open on the way.
-/
theorem acc_of_readLayer (ran : readLayer tree openFiles path metadata = .ok result)
    (located : tree.locate path = .ok file)
    : Acc (fun next before => Inherits tree before next) file := by
  fun_induction readLayer tree openFiles path metadata generalizing result file with
  | case3 openFiles path metadata location reached closed content found options parsed _ ih =>
      cases reached.symm.trans located
      obtain ⟨inherited, inheritDone, rfl⟩ := exists_of_map_eq_ok ran
      refine ⟨_, fun next inherits => ?_⟩
      obtain ⟨otherPath, otherParent, otherLocated, otherMentions, otherLeads⟩ := inherits
      by_cases isFile : ∃ data, tree.shape? next = some (.file data)
      · obtain ⟨data, nextFile⟩ := isFile
        obtain ⟨parent, mentions, leads⟩ :=
          otherMentions.congr otherLocated located otherLeads nextFile
        have listed := (mentions_iff (read?_of_node? located found) parsed).mp mentions
        obtain ⟨before, after, parentDone⟩ := exists_step_of_foldlM inheritDone listed
        exact ih before parent parentDone leads
      · -- What is no file inherits nothing.
        refine ⟨_, fun later inherits => ?_⟩
        obtain ⟨nextPath, -, nextLocated, ⟨data, -, readable, -⟩, -⟩ := inherits
        exact absurd ⟨data, shape?_of_read? nextLocated readable⟩ isFile
  | case1 => cases ran
  | case2 => cases ran
  | case4 => cases ran
  | case5 => cases ran

/-- If all files are there, reading fails at open files only, by induction on the files that are open
on the way.
-/
theorem exists_closing_of_readLayer {cause : BuildError} (complete : IsComplete tree path)
    (ran : readLayer tree openFiles path metadata = .error cause)
    : ∃ closing, cause = .metadataCycle closing := by
  fun_induction readLayer tree openFiles path metadata with
  | case1 openFiles path metadata fault missing =>
      obtain ⟨file, located⟩ := complete.exists_location
      cases missing.symm.trans located
  | case2 openFiles path metadata => exact ⟨path, (Except.error.inj ran).symm⟩
  | case3 openFiles path metadata file located closed content found options parsed _ ih =>
      obtain ⟨parent, listed, before, failed⟩ :=
        exists_step_of_foldlM_error (error_of_map_eq_error ran)
      have mentions := (mentions_iff (read?_of_node? located found) parsed).mpr listed
      exact ih before parent (complete.of_mentions mentions) failed
  | case4 openFiles path metadata file located closed content found unparsed =>
      obtain ⟨content, options, readable, parsed⟩ := complete path .refl
      have isFile := FileTree.shape?_eq_file_iff.mp (shape?_of_read? located readable)
      cases found.symm.trans isFile
      cases unparsed.symm.trans parsed
  | case5 openFiles path metadata file located closed noFile =>
      obtain ⟨content, options, readable, -⟩ := complete path .refl
      have isFile := FileTree.shape?_eq_file_iff.mp (shape?_of_read? located readable)
      exact (noFile content isFile).elim

/-- If every file that is reached is there and can be parsed, reading comes to an end: with an error
if some file that is reached inherits from itself, and with metadata otherwise, also if files are
reached more than once. The error names a file that inherits from itself.
-/
theorem read_eq_error_iff_leadsToCycle (complete : IsComplete tree path)
    : ∃ file,
        tree.locate path = .ok file
        ∧ ((∃ closing, read tree path = .error (.metadataCycle closing))
          ↔ LeadsToCycle tree file)
        ∧ ((∃ metadata, read tree path = .ok metadata) ↔ ¬ LeadsToCycle tree file)
        ∧ ∀ closing,
            read tree path = .error (.metadataCycle closing) →
            ∃ other, tree.locate closing = .ok other ∧ TransGen (Inherits tree) other other := by
  obtain ⟨file, located⟩ := complete.exists_location
  cases ran : read tree path with
  | ok metadata =>
      have noCycle := not_leadsToCycle_of_acc (acc_of_readLayer ran located)
      exact ⟨file, located, by simp [noCycle], by simp [noCycle], by simp⟩
  | error cause =>
      obtain ⟨closing, rfl⟩ := exists_closing_of_readLayer complete ran
      obtain ⟨first, other, firstLocated, stops, leads, closes⟩ :=
        exists_cycle_of_readLayer ran (by simp)
      cases located.symm.trans firstLocated
      have cycle : LeadsToCycle tree file := ⟨other, leads, closes⟩
      refine ⟨file, located, by simp [cycle], by simp [cycle], ?_⟩
      rintro _ ⟨⟩
      exact ⟨other, stops, closes⟩

/-- A metadata file that inherits itself through another directory. -/
def loopingText : String :=
  "[default]\ninherit = sub/../loop.ini\n"

def loopingFiles : Entries :=
  Entries.set "sub" (.directory []) (Entries.set "loop.ini" (.file loopingText.toUTF8) [])

theorem wellFormed_loopingFiles : loopingFiles.WellFormed :=
  (Entries.wellFormed_nil.set (by decide) (.file _)).set (by decide) Entries.wellFormed_nil

def loopingTree : FileTree :=
  ⟨loopingFiles, wellFormed_loopingFiles⟩

def loopingFile : OptionFile :=
  ⟨[⟨"default", [("inherit", "sub/../loop.ini")]⟩]⟩

/-- Both the looping file and the path that it mentions lead to the looping file. -/
theorem locate_loopingTree
    : loopingTree.locate ⟨"loop.ini"⟩ = .ok ["loop.ini"]
      ∧ loopingTree.locate ⟨"sub/../loop.ini"⟩ = .ok ["loop.ini"]
      ∧ loopingTree.read? ⟨"loop.ini"⟩ = some loopingText.toUTF8
      ∧ OptionFile.ofBytes? loopingText.toUTF8 = some loopingFile
      ∧ loopingFile.value? inheritSection inheritOption = some "sub/../loop.ini"
      ∧ Text.wordsOf "sub/../loop.ini" = ["sub/../loop.ini"]
      ∧ DiskPath.directory ⟨"loop.ini"⟩ ++ DiskPath.ofSlashed "sub/../loop.ini"
        = ⟨"sub/../loop.ini"⟩ := by
  decide +kernel

/-- The paths to the looping file get longer and longer, and all of them lead to it. -/
theorem isComplete_loop
    : IsComplete loopingTree ⟨"loop.ini"⟩ ∧ LeadsToCycle loopingTree ["loop.ini"] := by
  obtain ⟨located, goesRound, readable, parsed, option, words, joined⟩ := locate_loopingTree
  have isFile := shape?_of_read? located readable
  have parents : ∀ path,
      inherited loopingFile path = [path.directory ++ DiskPath.ofSlashed "sub/../loop.ini"] := by
    intro path
    rw [inherited, option]
    simp only [words, List.map_cons, List.map_nil]
  constructor
  · refine isComplete_of_closed (fun path => loopingTree.locate path = .ok ["loop.ini"]) ?_ located
    intro path again
    refine ⟨loopingText.toUTF8, loopingFile,
      read?_of_node? again (FileTree.shape?_eq_file_iff.mp isFile), parsed, fun parent listed => ?_⟩
    rw [parents, List.mem_singleton] at listed
    rw [listed]
    exact FileTree.locate_directory_append_congr located again isFile (joined ▸ goesRound) isFile
  · have mentions : Mentions loopingTree ⟨"loop.ini"⟩ ⟨"sub/../loop.ini"⟩ := by
      rw [mentions_iff readable parsed, parents, joined]
      exact List.mem_singleton.mpr rfl
    exact ⟨_, .refl, .single ⟨_, _, located, mentions, goesRound⟩⟩

def inheritedFile : OptionFile :=
  ⟨[⟨"general", [("id", "base"), ("name", "base")]⟩]⟩

theorem isComplete_own
    : IsComplete inheritingTree ⟨"own.ini"⟩
      ∧ inheritingTree.locate ⟨"own.ini"⟩ = .ok ["own.ini"] := by
  have facts
      : inheritingTree.locate ⟨"own.ini"⟩ = .ok ["own.ini"]
        ∧ inheritingTree.read? ⟨"own.ini"⟩ = some inheritingText.toUTF8
        ∧ OptionFile.ofBytes? inheritingText.toUTF8 = some inheritingFile
        ∧ inherited inheritingFile ⟨"own.ini"⟩ = [⟨"base.ini"⟩, ⟨"base.ini"⟩]
        ∧ inheritingTree.read? ⟨"base.ini"⟩ = some "[general]\nid=base\nname=base\n".toUTF8
        ∧ OptionFile.ofBytes? "[general]\nid=base\nname=base\n".toUTF8 = some inheritedFile
        ∧ inherited inheritedFile ⟨"base.ini"⟩ = [] := by
    decide +kernel
  obtain ⟨located, own, ownParsed, parents, base, baseParsed, noParents⟩ := facts
  refine ⟨isComplete_of_closed (fun path => path = ⟨"own.ini"⟩ ∨ path = ⟨"base.ini"⟩) ?_ (.inl rfl),
    located⟩
  rintro path (rfl | rfl)
  · exact ⟨_, _, own, ownParsed, by simp [parents]⟩
  · exact ⟨_, _, base, baseParsed, by simp [noParents]⟩

/-- The looping file is refused. The file that inherits another one twice is read, so it leads to no
cycle.
-/
theorem read_eq_error_iff_leadsToCycle_loop
    : (∃ closing, read loopingTree ⟨"loop.ini"⟩ = .error (.metadataCycle closing))
      ∧ ¬ LeadsToCycle inheritingTree ["own.ini"] := by
  obtain ⟨loopComplete, cycle⟩ := isComplete_loop
  obtain ⟨ownComplete, ownLocated⟩ := isComplete_own
  obtain ⟨loop, loopLocated, fails, -, -⟩ := read_eq_error_iff_leadsToCycle loopComplete
  obtain ⟨own, located, -, succeeds, -⟩ := read_eq_error_iff_leadsToCycle ownComplete
  cases locate_loopingTree.1.symm.trans loopLocated
  cases ownLocated.symm.trans located
  exact ⟨fails.mpr cycle, succeeds.mp ⟨_, read_inheritingTree⟩⟩

end AddonPackager.Metadata
