import AddonPackager.Proofs.Package.Reading

/-! Names of a directory walk. Whatever a walk offers is admitted, stands under the entry it was
found in, and is offered once.
-/

namespace AddonPackager

/-- Leaving out entries keeps a directory well-formed. -/
theorem Entries.WellFormed.filter {entries : Entries} {keep : String × Node → Bool}
    (wellFormed : entries.WellFormed)
    : WellFormed (List.filter keep entries) := by
  obtain ⟨ascending, named, inner⟩ := wellFormed_iff.mp wellFormed
  exact wellFormed_iff.mpr ⟨List.Pairwise.filter _ ascending,
    fun entry member => named entry (List.mem_filter.mp member).1,
    fun entry member => inner entry (List.mem_filter.mp member).1⟩

/-- A directory without its first entry is well-formed. -/
theorem Entries.WellFormed.tail {entry : String × Node} {rest : Entries}
    (wellFormed : Entries.WellFormed (entry :: rest))
    : rest.WellFormed := by
  obtain ⟨ascending, named, inner⟩ := wellFormed_iff.mp wellFormed
  exact wellFormed_iff.mpr ⟨(List.pairwise_cons.mp ascending).2,
    fun other member => named other (List.mem_cons_of_mem _ member),
    fun other member => inner other (List.mem_cons_of_mem _ member)⟩

namespace PathFilter

variable {filter : PathFilter} {path name other : String} {entries : Entries}
  {file : String × ByteArray} {tree : FileTree} {source : DiskPath} {skip : List String}

-----------------------------------------------------------------------------------------
-- Places of entries
-----------------------------------------------------------------------------------------

/-- The paths of entries start alike. -/
def lead (path : String) : List Char :=
  if path = "" then [] else path.toList ++ ['/']

theorem toList_below : (below path name).toList = lead path ++ name.toList := by
  rw [below, lead]
  split <;> simp

/-- What stands under different entries is different. -/
theorem IsUnder.unique {file : String} (plain : '/' ∉ name.toList) (plainOther : '/' ∉ other.toList)
    (first : IsUnder path name file) (second : IsUnder path other file)
    : name = other := by
  -- A slash at the end turns both cases into one: the name is what stands before the first slash.
  have split {entry : String} (under : IsUnder path entry file)
      : ∃ rest, file.toList ++ ['/'] = lead path ++ (entry.toList ++ '/' :: rest) := by
    rcases under with here | ⟨rest, inside⟩
    · exact ⟨[], by rw [here, toList_below, List.append_assoc]⟩
    · refine ⟨rest ++ ['/'], ?_⟩
      rw [← inside, toList_below]
      simp
  obtain ⟨rest, firstSplit⟩ := split first
  obtain ⟨rest', secondSplit⟩ := split second
  rw [firstSplit, List.append_cancel_left_eq] at secondSplit
  exact String.toList_inj.mp (Text.append_cons_inj plain plainOther secondSplit).1

-----------------------------------------------------------------------------------------
-- Walks
-----------------------------------------------------------------------------------------

/-- A walk offers admitted paths only, by induction along the directories. -/
theorem admits_of_mem_admitted (member : file ∈ filter.admitted path entries)
    : filter.admits file.1 = true := by
  induction path, entries using admitted.induct filter with
  | case1 path => simp [admitted] at member
  | case2 path name content rest ih =>
      rw [admitted, List.mem_append] at member
      rcases member with here | later
      · split at here
        · rename_i admits
          rw [List.mem_singleton.mp here]
          exact admits
        · simp at here
      · exact ih later
  | case3 path name inner rest ihInner ih =>
      rw [admitted, List.mem_append] at member
      rcases member with inside | later
      · split at inside
        · exact ihInner inside
        · simp at inside
      · exact ih later

/-- What is offered under the first entry of a directory is not offered again after it. -/
theorem ne_of_isUnder {node : Node} {rest : Entries} {here : List (String × ByteArray)}
    (wellFormed : Entries.WellFormed ((name, node) :: rest))
    (under : ∀ file ∈ here, IsUnder path name file.1)
    : ∀ a ∈ Assoc.names here, ∀ b ∈ Assoc.names (filter.admitted path rest), a ≠ b := by
  rintro a aMember b bMember rfl
  obtain ⟨ascending, named, -⟩ := Entries.wellFormed_iff.mp wellFormed
  obtain ⟨fresh, -⟩ := List.nodup_cons.mp ascending.nodup_names
  obtain ⟨file, listed, rfl⟩ := List.mem_map.mp aMember
  obtain ⟨later, laterListed, same⟩ := List.mem_map.mp bMember
  obtain ⟨entry, entryMember, underEntry⟩ := exists_entry_of_mem_admitted
    (fun entry member => named entry (List.mem_cons_of_mem _ member)) laterListed
  rw [same] at underEntry
  have sameName : name = entry.1 :=
    (under file listed).unique (not_mem_of_isEntryName (named _ List.mem_cons_self))
      (not_mem_of_isEntryName (named entry (List.mem_cons_of_mem _ entryMember))) underEntry
  exact fresh (sameName ▸ List.mem_map.mpr ⟨entry, entryMember, rfl⟩)

/-- A walk offers every path once, by induction along the directories. -/
theorem nodup_names_admitted (wellFormed : entries.WellFormed)
    : (Assoc.names (filter.admitted path entries)).Nodup := by
  induction path, entries using admitted.induct filter with
  | case1 path => simp [admitted]
  | case2 path name content rest ih =>
      rw [admitted, Assoc.names_append]
      refine (List.nodup_append.mpr ⟨?_, ih wellFormed.tail, ?_⟩)
      · split <;> simp
      · refine ne_of_isUnder wellFormed ?_
        intro file member
        split at member
        · rw [List.mem_singleton.mp member]
          exact .inl rfl
        · simp at member
  | case3 path name inner rest ihInner ih =>
      obtain ⟨-, named, innerWellFormed⟩ := Entries.wellFormed_iff.mp wellFormed
      rw [admitted, Assoc.names_append]
      refine (List.nodup_append.mpr ⟨?_, ih wellFormed.tail, ?_⟩)
      · split
        · exact ihInner (innerWellFormed _ List.mem_cons_self)
        · simp
      · refine ne_of_isUnder wellFormed ?_
        intro file member
        split at member
        · have nonempty : name ≠ "" := by
            rintro rfl
            exact absurd (named _ List.mem_cons_self) (by simp [isEntryName])
          exact .inr (prefix_of_mem_admitted (below_ne_empty_of_name nonempty) member)
        · simp at member

-----------------------------------------------------------------------------------------
-- Sources
-----------------------------------------------------------------------------------------

/-- A source offers every path once. -/
theorem nodup_names_sourceFiles
    : (Assoc.names (filter.sourceFiles tree source path skip)).Nodup := by
  rw [sourceFiles]
  split
  · simp
  · rename_i entries found
    exact nodup_names_admitted (FileTree.wellFormed_of_lookup? found).filter
  · simp

/-- A source that is a file offers the path that it is read under, one that is a directory offers
admitted paths.
-/
theorem mem_sourceFiles_cases (member : file ∈ filter.sourceFiles tree source path skip)
    : (file.1 = path ∧ tree.isFile source = true)
      ∨ tree.isDirectory source = true ∧ filter.admits file.1 = true := by
  rw [sourceFiles] at member
  split at member
  · rename_i content found
    refine .inl ⟨by rw [List.mem_singleton.mp member], ?_⟩
    rw [FileTree.isFile, FileTree.read?, found]
    rfl
  · rename_i entries found
    refine .inr ⟨?_, admits_of_mem_admitted member⟩
    rw [FileTree.isDirectory, FileTree.list?, found]
    rfl
  · simp at member

theorem admits_of_mem_sourceFiles (isDirectory : tree.isDirectory source = true)
    (member : file ∈ filter.sourceFiles tree source path skip)
    : filter.admits file.1 = true := by
  obtain ⟨entries, found⟩ := FileTree.exists_lookup?_of_isDirectory isDirectory
  rw [sourceFiles, found] at member
  exact admits_of_mem_admitted member

end PathFilter

end AddonPackager
