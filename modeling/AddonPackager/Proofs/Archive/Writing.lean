import AddonPackager.Archive.Writing
import AddonPackager.Proofs.FileTree.Changes

/-! Writing an archive to its place. Whatever goes wrong on the way, no file but the partial one is
touched, and once the archive is in its place the partial file is gone.
-/

namespace AddonPackager

variable {tree : FileTree} {base path : DiskPath} {name : String} {data : ByteArray}

-----------------------------------------------------------------------------------------
-- Names of partial files
-----------------------------------------------------------------------------------------

namespace DiskPath

/-- A path whose last segment is a proper name has it as its file name. -/
theorem fileName?_of_segments {front : List String} (relative : path.isAbsolute = false)
    (proper : isEntryName name = true) (segments : path.segments = front ++ [name])
    : path.fileName? = some name := by
  have last : path.components.getLast? = some (.entry name) := by
    rw [components_eq, relative, segments]
    cases front with
    | nil =>
        have notHere : (name == ".") = false := by
          rw [beq_eq_false_iff_ne]
          rintro rfl
          exact absurd proper (by decide)
        rw [List.nil_append, anchored, if_neg Bool.false_ne_true, notHere,
          if_neg Bool.false_ne_true, stepsOf_name proper]
        rfl
    | cons first middle =>
        rw [anchored_append, stepsOf_name proper, List.getLast?_concat]
  rw [fileName?, last]

/-- A path joined with a proper name ends with it. -/
theorem getLast?_segments_append_name (proper : isEntryName name = true)
    : (base ++ DiskPath.mk name).segments.getLast? = some name := by
  by_cases nonempty : base.text = ""
  · have alone : base ++ DiskPath.mk name = DiskPath.mk name := by
      have joined : base ++ DiskPath.mk name = base.append ⟨name⟩ := rfl
      rw [joined, append, nonempty]
      simp
    rw [alone, segments_name proper]
    rfl
  · obtain ⟨front, longer, -⟩ := segments_append nonempty (isAbsolute_name proper)
    rw [longer, segments_name proper, List.getLast?_concat]

end DiskPath

namespace Archive

theorem isEntryName_append_part (proper : isEntryName name = true)
    : isEntryName (name ++ ".part") = true :=
  isEntryName_of_length (by simp [not_mem_of_isEntryName proper]) (by simp)

/-- A partial file never stands where its archive goes. -/
theorem place?_partialPath_ne {before after : FileTree} {place place' : Location}
    (placed : before.place? path = some place)
    (placed' : after.place? (partialPath path) = some place')
    : place ≠ place' := by
  obtain ⟨directory, name, aimed, rfl⟩ := FileTree.exists_target_of_place? placed
  obtain ⟨directory', name', aimed', rfl⟩ := FileTree.exists_target_of_place? placed'
  obtain ⟨relative, proper, -, front, segments, -⟩ := FileTree.target_eq_ok_iff.mp aimed
  obtain ⟨-, -, -, front', segments', -⟩ := FileTree.target_eq_ok_iff.mp aimed'
  have named := DiskPath.fileName?_of_segments relative proper segments
  have joined : partialPath path = path.directory ++ DiskPath.mk (name ++ ".part") := by
    rw [partialPath, DiskPath.withFileName, named]
    rfl
  have last : (partialPath path).segments.getLast? = some (name ++ ".part") :=
    joined ▸ DiskPath.getLast?_segments_append_name (isEntryName_append_part proper)
  rw [segments', List.getLast?_concat, Option.some.injEq] at last
  intro same
  have sameName : name = name' := (List.append_singleton_inj.mp same).2
  rw [last] at sameName
  have size := congrArg String.length sameName
  simp at size

-----------------------------------------------------------------------------------------
-- Outcomes
-----------------------------------------------------------------------------------------

theorem onlyAddsDirectories_of_prepare {made : FileTree} (done : prepare tree path = .ok made)
    : tree.OnlyAddsDirectories made := by
  rw [prepare] at done
  split at done
  · cases done
    exact .refl
  · split at done
    · rename_i result directories
      cases done
      exact FileTree.onlyAddsDirectories_of_makeDirectories? directories
    · simp at done

theorem tree_of_prepare {failure : WriteFailure} (failed : prepare tree path = .error failure)
    : failure.tree = tree := by
  rw [prepare] at failed
  split at failed
  · simp at failed
  · split at failed
    · simp at failed
    · cases failed
      rfl

/-- A failed writing touches no file but the partial one. -/
theorem sameFilesExcept_of_write_error {failure : WriteFailure}
    (failed : write tree path data = .error failure)
    : tree.SameFilesExcept failure.tree [partialPath path] := by
  rw [write] at failed
  split at failed
  · rename_i cause notPrepared
    cases failed
    rw [tree_of_prepare notPrepared]
    exact .refl
  · rename_i made prepared
    have adds := onlyAddsDirectories_of_prepare prepared
    split at failed
    · cases failed
      exact adds.sameFilesExcept
    · rename_i written wrote
      split at failed
      · cases failed
        obtain ⟨place, placed, noDirectory, writes⟩ := FileTree.exists_place_of_write? wrote
        have keeps := FileTree.keepsDirectories_of_change noDirectory writes
        intro location content elsewhere
        have different : location ≠ place := by
          rintro rfl
          exact elsewhere _ List.mem_cons_self (keeps.place? placed)
        rw [← FileTree.shape?_eq_file_iff, ← FileTree.shape?_eq_file_iff, writes,
          if_neg different, adds.file_iff]
      · cases failed

/-- A written archive is in its place, its partial file is gone, and no other file is touched. -/
theorem sameFilesExcept_of_write {written : FileTree} (done : write tree path data = .ok written)
    : written.read? path = some data
      ∧ written.lookup? (partialPath path) = none
      ∧ tree.SameFilesExcept written [path, partialPath path] := by
  rw [write] at done
  split at done
  · cases done
  · rename_i made prepared
    have adds := onlyAddsDirectories_of_prepare prepared
    split at done
    · cases done
    · rename_i started wrote
      obtain ⟨place, placed, noDirectory, writes⟩ := FileTree.exists_place_of_write? wrote
      have startedKeeps := FileTree.keepsDirectories_of_change noDirectory writes
      split at done
      · cases done
      · rename_i moved renamed
        cases done
        obtain ⟨content, left, taken, leftPlaced, isFile, takenPlaced, noTaken, moves⟩ :=
          FileTree.exists_places_of_rename? renamed
        have movedKeeps := FileTree.keepsDirectories_of_move isFile noTaken moves
        have samePlace : place = left :=
          Option.some.inj ((startedKeeps.place? placed).symm.trans leftPlaced)
        subst samePlace
        have sameData : data = content := by
          rw [writes, if_pos rfl] at isFile
          simpa using isFile
        subst sameData
        have different : taken ≠ place := place?_partialPath_ne takenPlaced leftPlaced
        have partialPlaced := movedKeeps.place? leftPlaced
        have archivePlaced := movedKeeps.place? takenPlaced
        refine ⟨?_, ?_, ?_⟩
        · rw [FileTree.read?_eq_some_iff archivePlaced, moves, if_neg different, if_pos rfl]
        · have gone : written.shape? place = none := by
            rw [moves, if_pos rfl]
          rw [FileTree.lookup?_of_place? partialPlaced]
          exact Option.map_eq_none_iff.mp gone
        · intro location other elsewhere
          have notPlace : location ≠ place := by
            rintro rfl
            exact elsewhere _ (List.mem_cons_of_mem _ List.mem_cons_self) partialPlaced
          have notTaken : location ≠ taken := by
            rintro rfl
            exact elsewhere _ List.mem_cons_self archivePlaced
          rw [← FileTree.shape?_eq_file_iff, ← FileTree.shape?_eq_file_iff, moves,
            if_neg notPlace, if_neg notTaken, writes, if_neg notPlace, adds.file_iff]

end Archive

end AddonPackager
