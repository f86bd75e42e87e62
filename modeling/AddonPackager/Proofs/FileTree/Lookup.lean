import AddonPackager.FileTree.Tree

/-! What is found in a tree: every directory that a path leads to has proper names only.
-/

namespace AddonPackager

variable {tree : FileTree} {entries : Entries} {node : Node} {location : Location} {name : String}

theorem not_mem_of_isEntryName (proper : isEntryName name = true) : '/' ∉ name.toList := by
  simp only [isEntryName, Bool.and_eq_true, Bool.not_eq_true', List.contains_eq_mem,
    decide_eq_false_iff_not] at proper
  exact proper.2

/-- A longer name is proper if no slash is in it. -/
theorem isEntryName_of_length (plain : '/' ∉ name.toList) (long : 3 ≤ name.toList.length)
    : isEntryName name = true := by
  have notEmpty : name ≠ "" := by
    rintro rfl
    simp at long
  have notHere : name ≠ "." := by
    rintro rfl
    simp at long
  have notParent : name ≠ ".." := by
    rintro rfl
    simp at long
  simpa [isEntryName, notEmpty, notHere, notParent] using plain

/-- A node found in a well-formed directory is well-formed, by induction on its location. -/
theorem Entries.WellFormed.at? (wellFormed : entries.WellFormed)
    (found : entries.at? location = some node)
    : node.WellFormed := by
  induction location generalizing entries with
  | nil => simp [Entries.at?] at found
  | cons name rest ih =>
      cases rest with
      | nil =>
          rw [Entries.at?] at found
          exact (wellFormed.get? found).2
      | cons next rest =>
          rw [Entries.at?] at found
          split at found
          · rename_i inner directory
            exact ih (wellFormed.get? directory).2 found
          · simp at found

/-- The names on the way to a node are proper, by induction on its location. -/
theorem Entries.WellFormed.isEntryName_of_at? (wellFormed : entries.WellFormed)
    (found : entries.at? location = some node)
    : ∀ name ∈ location, isEntryName name = true := by
  induction location generalizing entries with
  | nil => simp
  | cons name rest ih =>
      cases rest with
      | nil =>
          rw [Entries.at?] at found
          rw [List.forall_mem_singleton]
          exact (wellFormed.get? found).1
      | cons next rest =>
          rw [Entries.at?] at found
          split at found
          · rename_i inner directory
            obtain ⟨proper, innerWellFormed⟩ := wellFormed.get? directory
            exact List.forall_mem_cons.mpr ⟨proper, ih innerWellFormed found⟩
          · simp at found

namespace FileTree

theorem wellFormed_of_lookup? {source : DiskPath}
    (found : tree.lookup? source = some (.directory entries))
    : entries.WellFormed := by
  rw [lookup?] at found
  split at found
  · rw [node?] at found
    split at found
    · cases found
      exact tree.wellFormed
    · exact tree.wellFormed.at? found
  · simp at found

theorem lookup?_of_list? {source : DiskPath} (listed : tree.list? source = some entries)
    : tree.lookup? source = some (.directory entries) := by
  rw [list?] at listed
  split at listed
  · rename_i inner found
    cases listed
    exact found
  · simp at listed

theorem wellFormed_of_list? {source : DiskPath} (listed : tree.list? source = some entries)
    : entries.WellFormed :=
  wellFormed_of_lookup? (lookup?_of_list? listed)

/-- Absolute paths lead out of the tree. -/
theorem isAbsolute_of_isDirectory {source : DiskPath} (isDirectory : tree.isDirectory source = true)
    : source.isAbsolute = false := by
  rw [Bool.eq_false_iff]
  intro absolute
  simp [FileTree.isDirectory, list?, lookup?, locate, absolute] at isDirectory

theorem exists_lookup?_of_isDirectory {source : DiskPath}
    (isDirectory : tree.isDirectory source = true)
    : ∃ entries, tree.lookup? source = some (.directory entries) := by
  obtain ⟨entries, listed⟩ := Option.isSome_iff_exists.mp isDirectory
  exact ⟨entries, lookup?_of_list? listed⟩

end FileTree

end AddonPackager
