import AddonPackager.Proofs.DiskPath.ArchiveNames

/-! Joining paths and taking the directory of a path, seen by their segments. Both work on the text of
a path, so empty segments and single dots may stay in it or get lost, but the segments that lead
somewhere are kept.
-/

namespace AddonPackager.DiskPath

variable {base path other : DiskPath} {name first : String} {front middle segments : List String}

-----------------------------------------------------------------------------------------
-- Joining
-----------------------------------------------------------------------------------------

/-- A relative path goes on behind the text of the path before it. -/
theorem exists_text_append (nonempty : base.text ≠ "") (relative : other.isAbsolute = false)
    : ∃ tail, (base ++ other).text.toList = base.text.toList ++ tail := by
  have joined : base ++ other = base.append other := rfl
  rw [joined, append, relative, Bool.false_or, if_neg (by simpa using nonempty)]
  split
  · exact ⟨other.text.toList, by simp⟩
  · exact ⟨'/' :: other.text.toList, by simp⟩

theorem text_append_ne (nonempty : base.text ≠ "") (relative : other.isAbsolute = false)
    : (base ++ other).text ≠ "" := by
  obtain ⟨tail, longer⟩ := exists_text_append nonempty relative
  intro empty
  rw [empty] at longer
  exact nonempty (String.toList_eq_nil_iff.mp (List.append_eq_nil_iff.mp longer.symm).1)

/-- Joining with a relative path keeps a path relative or absolute. -/
theorem isAbsolute_append (nonempty : base.text ≠ "") (relative : other.isAbsolute = false)
    : (base ++ other).isAbsolute = base.isAbsolute := by
  obtain ⟨tail, longer⟩ := exists_text_append nonempty relative
  exact isAbsolute_mk_append nonempty longer

/-- A path joined with a relative one has its own segments, up to an empty one at their end, and
then those of the other.
-/
theorem segments_append (nonempty : base.text ≠ "") (relative : other.isAbsolute = false)
    : ∃ front, (base ++ other).segments = front ++ other.segments
      ∧ (base.segments = front ∨ base.segments = front ++ [""]) := by
  have joined : base ++ other = base.append other := rfl
  rw [joined, append, relative, Bool.false_or, if_neg (by simpa using nonempty)]
  split
  · rename_i slash
    obtain ⟨front, split⟩ : ∃ front : String,
        base.text.toList = front.toList ++ '/' :: "".toList :=
      ⟨String.ofList base.text.toList.dropLast, by
        rw [String.toList_ofList]
        exact (List.dropLast_append_getLast? '/' slash).symm⟩
    have longer : (base.text ++ other.text).toList = front.toList ++ '/' :: other.text.toList := by
      rw [String.toList_append, split]
      simp
    exact ⟨DiskPath.segments ⟨front⟩, segments_mk_append longer, .inr (segments_mk_append split)⟩
  · have longer : (base.text ++ "/" ++ other.text).toList
        = base.text.toList ++ '/' :: other.text.toList := by
      simp
    exact ⟨base.segments, segments_mk_append longer, .inl rfl⟩

-----------------------------------------------------------------------------------------
-- Segments as texts
-----------------------------------------------------------------------------------------

/-- Segments of a path hold no slash. -/
theorem not_mem_of_mem_segments (member : name ∈ path.segments) : '/' ∉ name.toList := by
  obtain ⟨piece, listed, rfl⟩ := List.mem_map.mp member
  rw [String.toList_ofList]
  exact Text.not_mem_of_mem_splitOn listed

/-- Segments are read off the text that they are joined to. -/
theorem segments_join (nonempty : segments ≠ []) (plain : ∀ name ∈ segments, '/' ∉ name.toList)
    : DiskPath.segments ⟨Text.join "/" segments⟩ = segments := by
  have pieces : (['/'].intercalate (segments.map String.toList)).splitOn '/'
      = segments.map String.toList :=
    List.splitOn_intercalate '/' (by simpa using plain) (by simpa using nonempty)
  have slash : "/".toList = ['/'] := rfl
  rw [DiskPath.segments, Text.pieces, Text.join, String.toList_ofList, slash, pieces,
    List.map_map]
  simp

/-- A relative path of several segments does not start with an empty one. -/
theorem first_ne_of_segments (relative : path.isAbsolute = false)
    (split : path.segments = first :: middle) (longer : middle ≠ [])
    : first ≠ "" := by
  rintro rfl
  rw [isAbsolute] at relative
  rw [DiskPath.segments, Text.pieces] at split
  cases chars : path.text.toList with
  | nil =>
      rw [chars] at split
      exact longer (List.cons.inj split).2.symm
  | cons c rest =>
      obtain ⟨piece, pieces, cut⟩ := List.exists_cons_of_ne_nil (List.splitOn_ne_nil '/' rest)
      rw [chars] at split relative
      rw [List.splitOn_cons_eq_if_modifyHead, if_neg (by simpa using relative), cut] at split
      have start := congrArg String.toList (List.cons.inj split).1
      simp at start

/-- A path whose first segment is not empty is a relative path, and not the empty one. -/
theorem relative_of_segments (nonempty : first ≠ "") (split : path.segments = first :: middle)
    : path.text ≠ "" ∧ path.isAbsolute = false := by
  rw [DiskPath.segments, Text.pieces] at split
  rw [isAbsolute]
  cases chars : path.text.toList with
  | nil =>
      rw [chars] at split
      exact absurd (List.cons.inj split).1.symm nonempty
  | cons c rest =>
      rw [chars, List.splitOn_cons_eq_if_modifyHead] at split
      refine ⟨fun empty => by simp [empty] at chars, ?_⟩
      by_contra slash
      rw [if_pos (by simpa using slash)] at split
      exact nonempty (List.cons.inj split).1.symm

-----------------------------------------------------------------------------------------
-- Directories
-----------------------------------------------------------------------------------------

/-- A segment that leads somewhere is kept at the end, with all before it. -/
theorem dropIdleEnd_append_singleton (leads : isIdle name = false)
    : dropIdleEnd (front ++ [name]) = front ++ [name] := by
  simp [dropIdleEnd, leads]

theorem dropIdleEnd_cons (leads : isIdle first = false)
    : dropIdleEnd (first :: middle) = first :: dropIdleEnd middle := by
  rw [dropIdleEnd, dropIdleEnd, List.reverse_cons, List.dropWhile_append]
  split
  · rename_i allIdle
    rw [List.isEmpty_iff] at allIdle
    simp [allIdle, leads]
  · simp

/-- What is dropped at the end are idle segments. -/
theorem exists_idles (segments : List String)
    : ∃ idles,
        segments = dropIdleEnd segments ++ idles
        ∧ ∀ segment ∈ idles, isIdle segment = true := by
  refine ⟨(segments.reverse.takeWhile isIdle).reverse, ?_, ?_⟩
  · rw [dropIdleEnd, ← List.reverse_append, List.takeWhile_append_dropWhile, List.reverse_reverse]
  · intro segment member
    exact List.all_eq_true.mp List.all_takeWhile segment (List.mem_reverse.mp member)

theorem directory_of_anchor {start : Option Component} (leads : isIdle name = false)
    (anchored : path.anchor = (start, front ++ [name]))
    : path.directory = ofAnchor start (dropIdleEnd front) := by
  rw [directory, parent?, anchored]
  simp only [dropIdleEnd_append_singleton leads]
  cases front with
  | nil => rfl
  | cons first middle =>
      simp only [List.cons_append, Option.getD_some]
      rw [← List.cons_append, List.dropLast_concat]

theorem ofAnchor_here : ofAnchor (some .here) middle = ⟨Text.join "/" ("." :: middle)⟩ := by
  cases middle <;> rfl

/-- The directory of a relative path has the segments before the last one, up to idle ones at their
end, by cases on how the path starts.
-/
theorem exists_directory (relative : path.isAbsolute = false) (leads : isIdle name = false)
    (split : path.segments = front ++ [name])
    : ∃ kept idles,
        front = kept ++ idles
        ∧ (∀ segment ∈ idles, isIdle segment = true)
        ∧ path.directory = ⟨Text.join "/" kept⟩
        ∧ (kept = [] → front = []) := by
  cases front with
  | nil =>
      have notHere : (name == ".") = false := by
        simp only [isIdle, Bool.or_eq_false_iff] at leads
        exact leads.2
      have anchored : path.anchor = (none, [] ++ [name]) := by
        rw [anchor, split]
        simp [relative, notHere]
      exact ⟨[], [], rfl, by simp, directory_of_anchor leads anchored, fun _ => rfl⟩
  | cons first middle =>
      have nonempty : first ≠ "" := first_ne_of_segments relative split (by simp)
      obtain ⟨idles, front, areIdle⟩ := exists_idles middle
      refine ⟨first :: dropIdleEnd middle, idles, congrArg _ front, areIdle, ?_, by simp⟩
      rw [List.cons_append] at split
      by_cases here : first = "."
      · have anchored : path.anchor = (some .here, middle ++ [name]) := by
          rw [anchor, split]
          simp [relative, here]
        rw [directory_of_anchor leads anchored, ofAnchor_here, here]
      · have anchored : path.anchor = (none, first :: middle ++ [name]) := by
          rw [anchor, split]
          simp [relative, here]
        have firstLeads : isIdle first = false := by
          simp [isIdle, nonempty, here]
        rw [directory_of_anchor leads anchored, dropIdleEnd_cons firstLeads]
        rfl

end AddonPackager.DiskPath
