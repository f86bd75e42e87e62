import AddonPackager.Proofs.Fallible
import AddonPackager.Proofs.FileTree.Changes

/-! Paths that start from the directory of a file. Where they lead depends on where the file is, and
not on how its own path is written.
-/

namespace AddonPackager.FileTree

variable {tree : FileTree} {base path again other : DiskPath} {segments more idles : List String}
  {location target : Location} {content data : ByteArray}

-----------------------------------------------------------------------------------------
-- Following further
-----------------------------------------------------------------------------------------

theorem follow_append
    : tree.follow (segments ++ more)
      = (tree.follow segments).bind fun location => more.foldlM tree.step location := by
  rw [follow, List.foldlM_append]
  rfl

/-- Idle segments stay where they are, by induction on them. -/
theorem eq_of_idles (areIdle : ∀ segment ∈ idles, DiskPath.isIdle segment = true)
    (led : idles.foldlM tree.step location = .ok target)
    : target = location := by
  induction idles with
  | nil =>
      cases led
      rfl
  | cons segment rest ih =>
      rw [List.foldlM_cons] at led
      obtain ⟨next, stepped, later⟩ := exists_of_bind_eq_ok led
      obtain ⟨-, idle⟩ := step_eq_ok_iff.mp stepped
      rw [if_pos (areIdle segment List.mem_cons_self)] at idle
      subst idle
      exact ih (fun other member => areIdle other (List.mem_cons_of_mem _ member)) later

/-- A path that leads somewhere leads there without idle segments at its end. -/
theorem follow_of_append_idles (areIdle : ∀ segment ∈ idles, DiskPath.isIdle segment = true)
    (led : tree.follow (segments ++ idles) = .ok location)
    : tree.follow segments = .ok location := by
  rw [follow_append] at led
  obtain ⟨middle, first, last⟩ := exists_of_bind_eq_ok led
  rw [eq_of_idles areIdle last, first]

theorem locate_eq_ok_iff
    : tree.locate path = .ok location
      ↔ path.text ≠ "" ∧ path.isAbsolute = false ∧ tree.follow path.segments = .ok location := by
  rw [locate]
  split
  · rename_i nowhere
    simp only [Bool.or_eq_true, decide_eq_true_eq] at nowhere
    simp only [reduceCtorEq, false_iff]
    rintro ⟨nonempty, relative, -⟩
    simp [nonempty, relative] at nowhere
  · rename_i somewhere
    simp only [Bool.or_eq_true, decide_eq_true_eq, not_or, Bool.not_eq_true] at somewhere
    simp [somewhere]

/-- A relative path is followed from where the path before it leads. -/
theorem locate_append (located : tree.locate base = .ok location)
    (relative : other.isAbsolute = false)
    : tree.locate (base ++ other) = other.segments.foldlM tree.step location := by
  obtain ⟨nonempty, baseRelative, led⟩ := locate_eq_ok_iff.mp located
  obtain ⟨front, longer, ends⟩ := DiskPath.segments_append nonempty relative
  have first : tree.follow front = .ok location := by
    rcases ends with ends | ends
    · rw [← ends, led]
    · have idle : ∀ segment ∈ [""], DiskPath.isIdle segment = true := by decide
      exact follow_of_append_idles idle (ends ▸ led)
  have somewhere : ¬ (((base ++ other).text = "" || (base ++ other).isAbsolute) = true) := by
    simp [DiskPath.text_append_ne nonempty relative,
      DiskPath.isAbsolute_append nonempty relative, baseRelative]
  rw [locate, if_neg somewhere, longer, follow_append, first]
  rfl

-----------------------------------------------------------------------------------------
-- From a file
-----------------------------------------------------------------------------------------

/-- What has something below it is a directory. -/
theorem shape?_of_append_singleton {directory : Location} {name : String}
    (stands : tree.shape? (directory ++ [name]) ≠ none)
    : tree.shape? directory = some .directory := by
  rw [shape?_eq_directory_iff]
  rw [shape?, node?_append_singleton] at stands
  cases below : tree.root.below? directory with
  | none => simp [below] at stands
  | some entries => exact ⟨entries, rfl⟩

/-- The path of a file ends with a name, and what stands before the name leads to the directory of
the file.
-/
theorem exists_name_of_locate (located : tree.locate path = .ok location)
    (isFile : tree.shape? location = some (.file content))
    : ∃ front name,
        path.segments = front ++ [name]
        ∧ DiskPath.isIdle name = false
        ∧ tree.follow front = .ok location.dropLast := by
  obtain ⟨-, -, led⟩ := locate_eq_ok_iff.mp located
  cases split : path.segments using List.reverseRecOn with
  | nil =>
      rw [split] at led
      cases led
      simp [shape?, node?, Node.shape] at isFile
  | append_singleton front name =>
      rw [split, follow_append_singleton] at led
      obtain ⟨directory, before, stepped⟩ := exists_of_bind_eq_ok led
      obtain ⟨isDirectory, leads⟩ := step_eq_ok_iff.mp stepped
      -- Idle segments and `..` lead to directories, so the last segment is neither.
      split at leads
      · rw [leads, isDirectory] at isFile
        cases isFile
      · rename_i notIdle
        split at leads
        · obtain ⟨inside, rfl⟩ := leads
          obtain ⟨above, last, rfl⟩ := (List.eq_nil_or_concat' directory).resolve_left inside
          have stands : tree.shape? (above ++ [last]) ≠ none := by simp [isDirectory]
          rw [List.dropLast_concat, shape?_of_append_singleton stands] at isFile
          cases isFile
        · obtain ⟨rfl, -⟩ := leads
          rw [List.dropLast_concat]
          exact ⟨front, name, rfl, by simpa using notIdle, before⟩

/-- From the directory of a file, a path that is not empty leads where it leads from the location of
that directory.
-/
theorem locate_directory_append (located : tree.locate path = .ok location)
    (isFile : tree.shape? location = some (.file content)) (relative : other.isAbsolute = false)
    (nonempty : other.text ≠ "")
    : tree.locate (path.directory ++ other) = other.segments.foldlM tree.step location.dropLast := by
  obtain ⟨-, pathRelative, -⟩ := locate_eq_ok_iff.mp located
  obtain ⟨front, name, split, leads, led⟩ := exists_name_of_locate located isFile
  obtain ⟨kept, idles, rfl, areIdle, directory, all⟩ :=
    DiskPath.exists_directory pathRelative leads split
  have keptLeads := follow_of_append_idles areIdle led
  rw [directory]
  cases kept with
  | nil =>
      have start : location.dropLast = [] := (Except.ok.inj keptLeads).symm
      have alone : (⟨Text.join "/" []⟩ ++ other : DiskPath) = other := by
        show DiskPath.append _ _ = _
        simp [DiskPath.append, Text.join]
      rw [alone, start, locate, if_neg (by simp [nonempty, relative])]
      rfl
  | cons first middle =>
      have plain : ∀ segment ∈ first :: middle, '/' ∉ segment.toList := by
        intro segment member
        have listed : segment ∈ path.segments := by
          rw [split]
          exact List.mem_append_left _ (List.mem_append_left _ member)
        exact DiskPath.not_mem_of_mem_segments listed
      have kept := DiskPath.segments_join (List.cons_ne_nil first middle) plain
      have firstNonempty := DiskPath.first_ne_of_segments pathRelative split (by simp)
      obtain ⟨textNonempty, textRelative⟩ := DiskPath.relative_of_segments firstNonempty kept
      exact locate_append
        (locate_eq_ok_iff.mpr ⟨textNonempty, textRelative, kept.symm ▸ keptLeads⟩) relative

/-- Joining with the empty path leads to no file. -/
theorem isDirectory_of_locate_append (empty : other.text = "")
    (led : tree.locate (base ++ other) = .ok target)
    : tree.shape? target = some .directory := by
  obtain ⟨nonempty, -, follows⟩ := locate_eq_ok_iff.mp led
  have nothing : other = ⟨""⟩ := congrArg DiskPath.mk empty
  subst nothing
  have given : base.text ≠ "" := by
    intro emptyBase
    refine nonempty ?_
    show (DiskPath.append base ⟨""⟩).text = ""
    simp [DiskPath.append, emptyBase]
  have relative : DiskPath.isAbsolute ⟨""⟩ = false := by decide
  obtain ⟨front, longer, -⟩ := DiskPath.segments_append given relative
  have last : DiskPath.segments ⟨""⟩ = [""] := by decide
  rw [longer, last, follow_append_singleton] at follows
  obtain ⟨location, -, stepped⟩ := exists_of_bind_eq_ok follows
  obtain ⟨isDirectory, stays⟩ := step_eq_ok_iff.mp stepped
  rw [if_pos (by decide)] at stays
  exact stays ▸ isDirectory

/-- Which file a path leads to from the directory of a file does not depend on how the path of that
file is written.
-/
theorem locate_directory_append_congr (located : tree.locate path = .ok location)
    (alsoLocated : tree.locate again = .ok location)
    (isFile : tree.shape? location = some (.file content))
    (leads : tree.locate (path.directory ++ other) = .ok target)
    (targetFile : tree.shape? target = some (.file data))
    : tree.locate (again.directory ++ other) = .ok target := by
  by_cases relative : other.isAbsolute = false
  · by_cases empty : other.text = ""
    · rw [isDirectory_of_locate_append empty leads] at targetFile
      cases targetFile
    · rw [locate_directory_append alsoLocated isFile relative empty,
        ← locate_directory_append located isFile relative empty, leads]
  · have alone : ∀ base : DiskPath, base ++ other = other := by
      intro base
      show DiskPath.append base other = other
      simp [DiskPath.append, relative]
    rw [alone] at leads ⊢
    exact leads

end AddonPackager.FileTree
