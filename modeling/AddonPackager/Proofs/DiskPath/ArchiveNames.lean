import AddonPackager.Proofs.FileTree.Lookup
import AddonPackager.Proofs.Text.Splitting

/-! Joining a path with a proper name adds one step to it, however the path is written, so what
stands below a directory is named by the steps that lead there.
-/

namespace AddonPackager.DiskPath

variable {base path other : DiskPath} {name first : String} {middle more : List String}
  {absolute : Bool} {start steps : List Component}

-----------------------------------------------------------------------------------------
-- Steps of segments
-----------------------------------------------------------------------------------------

def stepsOf (segments : List String) : List Component :=
  (segments.filter (!isIdle ·)).map Component.ofSegment

/-- Steps of a path from its segments. The first one may be an anchor. -/
def anchored (absolute : Bool) : List String → List Component
  | [] => []
  | first :: rest =>
      if absolute then .root :: stepsOf rest
      else if first == "." then .here :: stepsOf rest
      else stepsOf (first :: rest)

theorem components_eq : path.components = anchored path.isAbsolute path.segments := by
  rw [components, anchor]
  cases path.segments with
  | nil => rfl
  | cons first rest =>
      simp only [anchored]
      split
      · rfl
      · split <;> rfl

/-- Segments at the end of a path are steps at its end. -/
theorem anchored_append
    : anchored absolute (first :: middle ++ more)
      = anchored absolute (first :: middle) ++ stepsOf more := by
  simp only [List.cons_append, anchored, stepsOf, List.filter_cons, List.filter_append]
  split
  · simp
  · split
    · simp
    · split <;> simp

-----------------------------------------------------------------------------------------
-- Proper names
-----------------------------------------------------------------------------------------

theorem stepsOf_name (proper : isEntryName name = true) : stepsOf [name] = [.entry name] := by
  simp only [isEntryName, Bool.and_eq_true, bne_iff_ne, ne_eq] at proper
  obtain ⟨⟨⟨nonempty, notHere⟩, notParent⟩, -⟩ := proper
  simp [stepsOf, isIdle, Component.ofSegment, nonempty, notHere, notParent]

/-- The segments of a text that goes on behind a slash. -/
theorem segments_mk_append {front back text : String}
    (split : text.toList = front.toList ++ '/' :: back.toList)
    : segments ⟨text⟩ = segments ⟨front⟩ ++ segments ⟨back⟩ := by
  rw [segments, segments, segments, Text.pieces, Text.pieces, Text.pieces, split,
    List.splitOn_append_cons_self, List.map_append]

theorem exists_segments : ∃ first middle, path.segments = first :: middle := by
  apply List.exists_cons_of_ne_nil
  rw [segments, Text.pieces, ne_eq, List.map_eq_nil_iff]
  exact List.splitOn_ne_nil _ _

/-- Whatever stands behind the first character, a path stays absolute or relative. -/
theorem isAbsolute_mk_append {front text : String} {tail : List Char} (nonempty : front ≠ "")
    (split : text.toList = front.toList ++ tail)
    : isAbsolute ⟨text⟩ = isAbsolute ⟨front⟩ := by
  rw [isAbsolute, isAbsolute, split]
  cases chars : front.toList with
  | nil => exact absurd (String.toList_eq_nil_iff.mp chars) nonempty
  | cons c rest => rfl

/-- A path that goes on behind a slash has the steps of the rest at its end. -/
theorem components_mk_append {front back text : String} (nonempty : front ≠ "")
    (split : text.toList = front.toList ++ '/' :: back.toList)
    : components ⟨text⟩ = components ⟨front⟩ ++ stepsOf (segments ⟨back⟩) := by
  obtain ⟨first, middle, segments⟩ : ∃ first middle, segments ⟨front⟩ = first :: middle :=
    exists_segments
  rw [components_eq, components_eq, segments_mk_append split, segments, anchored_append,
    isAbsolute_mk_append nonempty split]

theorem segments_name (proper : isEntryName name = true) : segments ⟨name⟩ = [name] := by
  rw [segments, Text.pieces, List.splitOn_eq_singleton (not_mem_of_isEntryName proper)]
  simp

theorem isAbsolute_name (proper : isEntryName name = true) : isAbsolute ⟨name⟩ = false := by
  rw [isAbsolute]
  split
  · rename_i c rest chars
    rw [beq_eq_false_iff_ne]
    rintro rfl
    exact not_mem_of_isEntryName proper (by simp [chars])
  · rfl

/-- A proper name is one step. -/
theorem components_name (proper : isEntryName name = true)
    : components ⟨name⟩ = [.entry name] := by
  have notHere : (name == ".") = false := by
    rw [beq_eq_false_iff_ne]
    rintro rfl
    exact absurd proper (by decide)
  rw [components_eq, segments_name proper, isAbsolute_name proper, anchored,
    if_neg Bool.false_ne_true, notHere, if_neg Bool.false_ne_true, stepsOf_name proper]

/-- A slash at the end of a path separates what follows as one between them would. -/
theorem components_append_of_slash {text : String} (slash : text.toList.getLast? = some '/')
    : components ⟨text ++ other.text⟩ = components ⟨text⟩ ++ stepsOf other.segments := by
  obtain ⟨front, split⟩ : ∃ front : String, text.toList = front.toList ++ '/' :: "".toList :=
    ⟨String.ofList text.toList.dropLast, by
      rw [String.toList_ofList]
      exact (List.dropLast_append_getLast? '/' slash).symm⟩
  have longer : (text ++ other.text).toList = front.toList ++ '/' :: other.text.toList := by
    rw [String.toList_append, split]
    simp
  by_cases root : front = ""
  · have slashAlone : text = "/" := String.toList_inj.mp (by rw [split, root]; rfl)
    have rooted : components ⟨"/"⟩ = [.root] := by decide
    have rootSegments : segments ⟨""⟩ = [""] := by decide
    have absolute : isAbsolute ⟨text ++ other.text⟩ = true := by
      rw [isAbsolute, longer, root]
      rfl
    rw [components_eq, segments_mk_append longer, absolute, root, rootSegments, slashAlone, rooted]
    rfl
  · have ended : stepsOf (segments ⟨""⟩) = [] := by decide
    rw [components_mk_append root longer, components_mk_append root split, ended, List.append_nil]

/-- Joining with a relative path adds the steps of its segments, by cases on how the text of the path
ends.
-/
theorem components_append (nonempty : base.text ≠ "") (relative : other.isAbsolute = false)
    : (base ++ other).components = base.components ++ stepsOf other.segments := by
  have joined : base ++ other = base.append other := rfl
  rw [joined, append, relative, Bool.false_or, if_neg (by simpa using nonempty)]
  split
  · rename_i slash
    exact components_append_of_slash slash
  · have longer : (base.text ++ "/" ++ other.text).toList
        = base.text.toList ++ '/' :: other.text.toList := by
      simp
    exact components_mk_append nonempty longer

/-- Joining with a proper name adds one step. -/
theorem components_append_name (proper : isEntryName name = true)
    : (base ++ DiskPath.mk name).components = base.components ++ [.entry name] := by
  by_cases empty : base.text = ""
  · have nothing : components ⟨""⟩ = [] := by decide
    have joined : base ++ DiskPath.mk name = base.append ⟨name⟩ := rfl
    obtain ⟨text⟩ := base
    cases empty
    rw [joined, append, if_pos (by simp), nothing, components_name proper, List.nil_append]
  · rw [components_append empty (isAbsolute_name proper), segments_name proper, stepsOf_name proper]

-----------------------------------------------------------------------------------------
-- Archive names
-----------------------------------------------------------------------------------------

/-- What stands below a start is found, by induction on the start. -/
theorem stripComponents?_append : stripComponents? start (start ++ steps) = some steps := by
  induction start with
  | nil => rfl
  | cons step rest ih => simp [stripComponents?, ih]

/-- What stands below the base is named by the steps that lead there. -/
theorem archiveName_of_components (below : path.components = base.components ++ steps)
    : path.archiveName base = Text.join "/" (steps.map Component.text) := by
  rw [archiveName, below, stripComponents?_append, Option.getD_some]

end AddonPackager.DiskPath
