import AddonPackager.Package.Reading
import AddonPackager.Proofs.FileTree.Lookup
import AddonPackager.Proofs.Package.Contents
import AddonPackager.Proofs.Text.Splitting

/-! What reading files and directories offers to a package. Everything that is read from a
directory has a path below that of the directory, so different sources never touch each other's
files.
-/

namespace AddonPackager

variable {filter : PathFilter} {path : String} {entries : Entries} {file : String × ByteArray}

-----------------------------------------------------------------------------------------
-- Files below a path
-----------------------------------------------------------------------------------------

namespace PathFilter

theorem below_of_ne {name : String} (nonempty : path ≠ "")
    : below path name = path ++ "/" ++ name :=
  if_neg nonempty

theorem below_ne_empty {name : String} (nonempty : path ≠ "") : below path name ≠ "" := by
  rw [below_of_ne nonempty]
  intro empty
  have chars := congrArg String.toList empty
  simp at chars

theorem below_ne_empty_of_name {name : String} (nonempty : name ≠ "") : below path name ≠ "" := by
  by_cases top : path = ""
  · rw [below, if_pos top]
    exact nonempty
  · exact below_ne_empty top

theorem prefix_below {name : String} (nonempty : path ≠ "")
    : path.toList ++ ['/'] <+: (below path name).toList := by
  rw [below_of_ne nonempty]
  exact ⟨name.toList, by simp⟩

/-- What is admitted below a path has a path below it, by induction along the directories. -/
theorem prefix_of_mem_admitted (nonempty : path ≠ "")
    (member : file ∈ filter.admitted path entries)
    : path.toList ++ ['/'] <+: file.1.toList := by
  induction path, entries using admitted.induct filter with
  | case1 path => simp [admitted] at member
  | case2 path name content rest ih =>
      rw [admitted, List.mem_append] at member
      rcases member with here | later
      · split at here
        · rw [List.mem_singleton.mp here]
          exact prefix_below nonempty
        · simp at here
      · exact ih nonempty later
  | case3 path name inner rest ihInner ih =>
      rw [admitted, List.mem_append] at member
      rcases member with inside | later
      · split at inside
        · have deeper := ihInner (below_ne_empty nonempty) inside
          exact (prefix_below nonempty).trans ((List.prefix_append _ _).trans deeper)
        · simp at inside
      · exact ih nonempty later

/-- A path that names an entry of a directory or something inside it. -/
def IsUnder (path name file : String) : Prop :=
  file = below path name ∨ (below path name).toList ++ ['/'] <+: file.toList

/-- Everything that is admitted stands under an entry, by induction on the entries. -/
theorem exists_entry_of_mem_admitted (named : ∀ entry ∈ entries, isEntryName entry.1 = true)
    (member : file ∈ filter.admitted path entries)
    : ∃ entry ∈ entries, IsUnder path entry.1 file.1 := by
  induction entries with
  | nil => simp [admitted] at member
  | cons head rest ih =>
      obtain ⟨name, node⟩ := head
      have later : file ∈ filter.admitted path rest →
          ∃ entry ∈ (name, node) :: rest, IsUnder path entry.1 file.1 := by
        intro inRest
        obtain ⟨entry, listed, isUnder⟩ :=
          ih (fun other otherMember => named other (List.mem_cons_of_mem _ otherMember)) inRest
        exact ⟨entry, List.mem_cons_of_mem _ listed, isUnder⟩
      cases node with
      | file content =>
          rw [admitted, List.mem_append] at member
          rcases member with here | inRest
          · split at here
            · exact ⟨_, List.mem_cons_self, .inl (by rw [List.mem_singleton.mp here])⟩
            · simp at here
          · exact later inRest
      | directory inner =>
          rw [admitted, List.mem_append] at member
          rcases member with inside | inRest
          · split at inside
            · have nonempty : name ≠ "" := by
                rintro rfl
                exact absurd (named _ List.mem_cons_self) (by simp [isEntryName])
              exact ⟨_, List.mem_cons_self,
                .inr (prefix_of_mem_admitted (below_ne_empty_of_name nonempty) inside)⟩
            · simp at inside
          · exact later inRest

/-- The files that reading a source under a path offers. -/
def sourceFiles (filter : PathFilter) (tree : FileTree) (source : DiskPath) (path : String)
    (skip : List String) : List (String × ByteArray) :=
  match tree.lookup? source with
  | some (.file content) => [(path, content)]
  | some (.directory entries) =>
      filter.admitted path (entries.filter fun entry => !skip.contains entry.1)
  | none => []

/-- What a source offers at the top is never below a skipped entry. -/
theorem not_prefix_of_mem_sourceFiles {tree : FileTree} {source : DiskPath} {skip : List String}
    {skipped : String} (isSkipped : skipped ∈ skip) (plain : '/' ∉ skipped.toList)
    (member : file ∈ filter.sourceFiles tree source "" skip)
    : ¬ skipped.toList ++ ['/'] <+: file.1.toList := by
  rintro ⟨rest, split⟩
  rw [List.append_assoc, List.singleton_append] at split
  rw [sourceFiles] at member
  split at member
  · rw [List.mem_singleton.mp member] at split
    simp at split
  · rename_i entries found
    have wellFormed := FileTree.wellFormed_of_lookup? found
    obtain ⟨-, named, -⟩ := Entries.wellFormed_iff.mp wellFormed
    obtain ⟨entry, kept, isBelow⟩ := exists_entry_of_mem_admitted
      (fun entry listed => named entry (List.mem_filter.mp listed).1) member
    obtain ⟨listed, notSkipped⟩ := List.mem_filter.mp kept
    have proper := not_mem_of_isEntryName (named entry listed)
    have top : PathFilter.below "" entry.1 = entry.1 := rfl
    rw [IsUnder, top] at isBelow
    rcases isBelow with here | ⟨more, inside⟩
    · rw [here] at split
      exact proper (by simp [← split])
    · rw [List.append_assoc, List.singleton_append, ← split] at inside
      have same : entry.1 = skipped :=
        String.toList_inj.mp (Text.append_cons_inj proper plain inside).1
      simp [same, isSkipped] at notSkipped
  · simp at member

end PathFilter

namespace Package

variable {package changed : Package} {tree : FileTree} {source : DiskPath} {skip : List String}

/-- Reading a source offers its files. -/
theorem eq_offerAll_of_read (read : package.read tree source path skip = .ok changed)
    : changed = package.offerAll (package.filter.sourceFiles tree source path skip) := by
  rw [Package.read] at read
  rw [PathFilter.sourceFiles]
  cases found : tree.lookup? source with
  | none =>
      rw [found] at read
      cases read
  | some node =>
      rw [found] at read
      cases node with
      | file content =>
          cases read
          rfl
      | directory entries =>
          cases read
          rfl

end Package

end AddonPackager
