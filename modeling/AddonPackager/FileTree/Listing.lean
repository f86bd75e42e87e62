import AddonPackager.FileTree.Tree

/-! The listing of a tree's files: whatever file a location names is listed with that location.
-/

namespace AddonPackager

/-- A file found at a location is listed, by induction on the location. -/
theorem FileTree.mem_filesBelow_of_at? {entries : Entries} {location : Location}
    {content : ByteArray} (above : Location) (found : entries.at? location = some (.file content))
    : (above ++ location, content) ∈ FileTree.filesBelow above entries := by
  induction location generalizing entries above with
  | nil => simp [Entries.at?] at found
  | cons name rest ih =>
      have listed : ∀ {entries : Entries} {node : Node}, entries.get? name = some node
          → (∀ c, node = .file c → (above ++ [name], c) ∈ FileTree.filesBelow above entries)
            ∧ ∀ inner, node = .directory inner
              → ∀ entry ∈ FileTree.filesBelow (above ++ [name]) inner,
                entry ∈ FileTree.filesBelow above entries := by
        intro entries node get
        induction entries with
        | nil => simp [Entries.get?, Assoc.get?] at get
        | cons head tail ihTail =>
            obtain ⟨n, child⟩ := head
            simp only [Entries.get?, Assoc.get?] at get
            split at get
            · rename_i same
              subst same
              cases get
              constructor
              · rintro c rfl
                simp [FileTree.filesBelow]
              · rintro inner rfl entry member
                simp [FileTree.filesBelow, member]
            · obtain ⟨file, directory⟩ := ihTail get
              constructor
              · intro c same
                cases child <;> simp [FileTree.filesBelow, file c same]
              · intro inner same entry member
                cases child <;> simp [FileTree.filesBelow, directory inner same entry member]
      cases rest with
      | nil =>
          rw [Entries.at?] at found
          exact (listed found).1 content rfl
      | cons next rest =>
          rw [Entries.at?] at found
          split at found
          · rename_i inner get
            have := (listed get).2 inner rfl _ (ih (above ++ [name]) found)
            simpa using this
          · simp at found

/-- A file of the tree is listed with its location. -/
theorem FileTree.mem_files_of_node? {tree : FileTree} {location : Location} {content : ByteArray}
    (found : tree.node? location = some (.file content))
    : (location, content) ∈ tree.files := by
  rw [FileTree.node?] at found
  split at found
  · simp at found
  · exact FileTree.mem_filesBelow_of_at? [] found

end AddonPackager
