import AddonPackager.Proofs.DiskPath.Joining
import Mathlib.Data.List.TakeDrop

/-! File names and their stems. A file name is one of the segments of its path, so neither it nor its
stem has a slash.
-/

namespace AddonPackager.DiskPath

variable {path : DiskPath} {name : String} {segments : List String}

theorem mem_of_entry_mem_stepsOf (member : .entry name ∈ stepsOf segments) : name ∈ segments := by
  obtain ⟨segment, listed, step⟩ := List.mem_map.mp member
  rw [Component.ofSegment] at step
  split at step
  · cases step
  · cases step
    exact (List.mem_filter.mp listed).1

theorem mem_segments_of_fileName? (named : path.fileName? = some name) : name ∈ path.segments := by
  rw [fileName?] at named
  split at named
  · rename_i found last
    cases named
    have member := List.mem_of_getLast? last
    rw [components_eq] at member
    cases split : path.segments with
    | nil => simp [split, anchored] at member
    | cons first rest =>
        simp only [split, anchored] at member
        split at member
        · have inRest := List.mem_of_ne_of_mem (by simp) member
          exact List.mem_cons_of_mem _ (mem_of_entry_mem_stepsOf inRest)
        · split at member
          · have inRest := List.mem_of_ne_of_mem (by simp) member
            exact List.mem_cons_of_mem _ (mem_of_entry_mem_stepsOf inRest)
          · exact mem_of_entry_mem_stepsOf member
  · cases named

/-- What stands before the last dot of a name is a part of it. -/
theorem mem_of_mem_stem {c : Char} (member : c ∈ (stem name).toList) : c ∈ name.toList := by
  rw [stem, List.span_eq_takeWhile_dropWhile] at member
  split at member
  · rename_i ending before cut
    split at member
    · exact member
    · rw [String.toList_ofList, List.mem_reverse] at member
      have dropped : c ∈ name.toList.reverse.dropWhile (· != '.') := by
        rw [(Prod.mk.inj cut).2]
        exact List.mem_cons_of_mem _ member
      exact List.mem_reverse.mp ((List.dropWhile_suffix _).mem dropped)
  · exact member

theorem not_mem_fileStem : '/' ∉ path.fileStem.toList := by
  rw [fileStem]
  cases named : path.fileName? with
  | none => simp
  | some name =>
      intro slash
      exact not_mem_of_mem_segments (mem_segments_of_fileName? named) (mem_of_mem_stem slash)

end AddonPackager.DiskPath
