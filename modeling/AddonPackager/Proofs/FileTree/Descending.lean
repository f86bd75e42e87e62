import AddonPackager.Proofs.DiskPath.Joining

/-! Following paths step by step. A path that goes on with a proper name leads to what the
directory before it holds under that name, however the path is written.
-/

namespace AddonPackager

variable {tree : FileTree} {entries inner : Entries} {location : Location} {name segment : String}
  {segments more : List String} {base : DiskPath}

-----------------------------------------------------------------------------------------
-- Locations
-----------------------------------------------------------------------------------------

namespace Entries

/-- What stands one name below a directory is its entry, by induction on the location of the
directory.
-/
theorem at?_append_singleton
    : entries.at? (location ++ [name]) = (entries.below? location).bind (Entries.get? name) := by
  induction location generalizing entries with
  | nil => rfl
  | cons d rest ih =>
      obtain ⟨next, others, longer⟩ : ∃ next others, rest ++ [name] = next :: others :=
        List.exists_cons_of_ne_nil (by simp)
      rw [List.cons_append, longer, at?, below?]
      cases entries.get? d with
      | none => rfl
      | some child =>
          cases child with
          | file content => rfl
          | directory inner => exact (congrArg (at? · inner) longer.symm).trans ih

/-- A location leads to the entries of the directory that stands there, by induction on it. -/
theorem below?_eq_some_iff
    : entries.below? location = some inner
      ↔ location = [] ∧ entries = inner
        ∨ entries.at? location = some (.directory inner) := by
  induction location generalizing entries with
  | nil => simp [below?, at?]
  | cons d rest ih =>
      rw [below?]
      cases rest with
      | nil =>
          rw [at?]
          cases entries.get? d with
          | none => simp
          | some child => cases child <;> simp [below?]
      | cons next others =>
          rw [at?]
          cases entries.get? d with
          | none => simp
          | some child =>
              cases child with
              | file content => simp
              | directory directory => simpa using ih

end Entries

namespace FileTree

theorem below?_eq_some_iff
    : tree.root.below? location = some entries
      ↔ tree.node? location = some (.directory entries) := by
  rw [Entries.below?_eq_some_iff, node?]
  split
  · rename_i root
    simp [root, Entries.at?]
  · rename_i inside
    simp [inside]

theorem node?_append_singleton
    : tree.node? (location ++ [name]) = (tree.root.below? location).bind (Entries.get? name) := by
  rw [node?, if_neg (by simp), Entries.at?_append_singleton]

-----------------------------------------------------------------------------------------
-- Segments
-----------------------------------------------------------------------------------------

/-- A path is followed up to its last segment first. -/
theorem follow_append_singleton
    : tree.follow (segments ++ [segment])
      = (tree.follow segments).bind fun location => tree.step location segment := by
  rw [follow, follow, List.foldlM_append]
  simp only [List.foldlM_cons, List.foldlM_nil, bind_pure]
  rfl

/-- The entries of the directory that segments lead to. -/
def entriesAt? (tree : FileTree) (segments : List String) : Option Entries :=
  match tree.follow segments with
  | .ok location => tree.root.below? location
  | .error _ => none

/-- An idle segment leads back to the directory before it. -/
theorem entriesAt?_append_idle (idle : DiskPath.isIdle segment = true)
    : tree.entriesAt? (segments ++ [segment]) = tree.entriesAt? segments := by
  rw [entriesAt?, entriesAt?, follow_append_singleton]
  cases tree.follow segments with
  | error fault => rfl
  | ok location =>
      simp only [Except.bind, step]
      cases stands : tree.root.below? location with
      | none => rfl
      | some entries => simp [idle, stands]

theorem not_isIdle_of_isEntryName (proper : isEntryName name = true)
    : DiskPath.isIdle name = false ∧ name ≠ ".." := by
  simp only [isEntryName, Bool.and_eq_true, bne_iff_ne, ne_eq] at proper
  obtain ⟨⟨⟨nonempty, notHere⟩, notParent⟩, -⟩ := proper
  exact ⟨by simp [DiskPath.isIdle, nonempty, notHere], notParent⟩

/-- A proper name leads to the entry of the directory before it. -/
theorem step_of_isEntryName (proper : isEntryName name = true)
    (stands : tree.root.below? location = some entries)
    : tree.step location name
      = if (entries.get? name).isSome then .ok (location ++ [name]) else .error .missing := by
  obtain ⟨notIdle, notParent⟩ := not_isIdle_of_isEntryName proper
  rw [step, stands]
  simp only [notIdle, notParent, Bool.false_eq_true, if_false]
  cases entries.get? name <;> rfl

/-- The node behind segments and a proper name is the entry of the directory of the segments. -/
theorem node?_follow_append_name (proper : isEntryName name = true)
    : (tree.follow (segments ++ [name])).toOption.bind tree.node?
      = (tree.entriesAt? segments).bind (Entries.get? name) := by
  rw [follow_append_singleton, entriesAt?]
  cases tree.follow segments with
  | error fault => rfl
  | ok location =>
      simp only [Except.bind]
      cases stands : tree.root.below? location with
      | none =>
          rw [step, stands]
          rfl
      | some entries =>
          rw [step_of_isEntryName proper stands]
          split
          · simp [Except.toOption, node?_append_singleton, stands]
          · rename_i missing
            exact (Option.not_isSome_iff_eq_none.mp missing).symm

-----------------------------------------------------------------------------------------
-- Paths
-----------------------------------------------------------------------------------------

theorem lookup?_eq_bind {path : DiskPath} (nonempty : path.text ≠ "")
    (relative : path.isAbsolute = false)
    : tree.lookup? path = (tree.follow path.segments).toOption.bind tree.node? := by
  rw [lookup?, locate, relative, Bool.or_false, if_neg (by simpa using nonempty)]
  cases tree.follow path.segments <;> rfl

theorem list?_eq_entriesAt? {path : DiskPath} (nonempty : path.text ≠ "")
    (relative : path.isAbsolute = false)
    : tree.list? path = tree.entriesAt? path.segments := by
  rw [list?, lookup?_eq_bind nonempty relative, entriesAt?]
  cases tree.follow path.segments with
  | error fault => rfl
  | ok location =>
      simp only [Except.toOption, Option.bind_some]
      cases stands : tree.root.below? location with
      | some entries => rw [below?_eq_some_iff.mp stands]
      | none =>
          split
          · rename_i entries found
            rw [below?_eq_some_iff.mpr found] at stands
            cases stands
          · rfl

theorem lookup?_of_isAbsolute {path : DiskPath} (absolute : path.isAbsolute = true)
    : tree.lookup? path = none := by
  simp [lookup?, locate, absolute]

/-- A path joined with a proper name leads to what the directory of the path holds under it. -/
theorem lookup?_append_name (nonempty : base.text ≠ "") (proper : isEntryName name = true)
    : tree.lookup? (base ++ DiskPath.mk name) = (tree.list? base).bind (Entries.get? name) := by
  have relative := DiskPath.isAbsolute_name proper
  have joined := DiskPath.isAbsolute_append nonempty relative
  cases absolute : base.isAbsolute with
  | true =>
      rw [lookup?_of_isAbsolute (joined.trans absolute), list?, lookup?_of_isAbsolute absolute]
      rfl
  | false =>
      obtain ⟨front, longer, ends⟩ := DiskPath.segments_append nonempty relative
      rw [DiskPath.segments_name proper] at longer
      have same : tree.entriesAt? base.segments = tree.entriesAt? front := by
        rcases ends with ends | ends
        · rw [ends]
        · rw [ends, entriesAt?_append_idle (by decide)]
      rw [lookup?_eq_bind (DiskPath.text_append_ne nonempty relative) (joined.trans absolute),
        longer, node?_follow_append_name proper, list?_eq_entriesAt? nonempty absolute, same]

end FileTree

end AddonPackager
