import AddonPackager.Text.Split
import Mathlib.Data.List.Basic

/-! Cutting texts at characters. A piece between separators holds none of them.
-/

namespace AddonPackager.Text

variable {text more piece before after : List Char} {separator : Char}

/-- Pieces hold no separator, by induction on the text. -/
theorem not_mem_of_mem_splitOn (member : piece ∈ text.splitOn separator) : separator ∉ piece := by
  induction text generalizing piece with
  | nil => simp_all
  | cons c rest ih =>
      rw [List.splitOn_cons_eq_if_modifyHead] at member
      split at member
      · rcases List.mem_cons.mp member with empty | later
        · simp [empty]
        · exact ih later
      · rename_i other
        obtain ⟨first, others, split⟩ :=
          List.exists_cons_of_ne_nil (List.splitOn_ne_nil separator rest)
        rw [split, List.modifyHead_cons] at member
        rcases List.mem_cons.mp member with here | later
        · have free : separator ∉ first := ih (by simp [split])
          simp only [beq_iff_eq] at other
          simp [here, free, Ne.symm other]
        · exact ih (by simp [split, later])

theorem splitOnce_eq_none_iff : splitOnce separator text = none ↔ separator ∉ text := by
  induction text with
  | nil => simp [splitOnce]
  | cons c rest ih =>
      rw [splitOnce]
      by_cases here : c = separator
      · simp [here]
      · simp [here, ih, Ne.symm here]

/-- The first separator is where the text is split, by induction on what stands before it. -/
theorem splitOnce_append_cons (free : separator ∉ before)
    : splitOnce separator (before ++ separator :: after) = some (before, after) := by
  induction before with
  | nil => simp [splitOnce]
  | cons c rest ih =>
      rw [List.mem_cons, not_or] at free
      rw [List.cons_append, splitOnce, if_neg (Ne.symm free.1), ih free.2]
      rfl

/-- What stands before and after the first separator can be read off the whole. -/
theorem append_cons_inj {before' after' : List Char} (free : separator ∉ before)
    (free' : separator ∉ before')
    (same : before ++ separator :: after = before' ++ separator :: after')
    : before = before' ∧ after = after' := by
  have split : splitOnce separator (before ++ separator :: after) = some (before, after) :=
    splitOnce_append_cons free
  rw [same, splitOnce_append_cons free'] at split
  obtain ⟨sameBefore, sameAfter⟩ := Prod.mk.inj (Option.some.inj split)
  exact ⟨sameBefore.symm, sameAfter.symm⟩

/-- What stands before a separator goes at least as far as a start without separators. -/
theorem exists_between_of_append {start : List Char} (free : separator ∉ start)
    (same : start ++ after = before ++ separator :: more)
    : ∃ between, before = start ++ between ∧ after = between ++ separator :: more := by
  rcases List.append_eq_append_iff.mp same with ⟨between, longer, rest⟩ | ⟨between, shorter, rest⟩
  · exact ⟨between, longer, rest⟩
  · cases between with
    | nil => exact ⟨[], by simpa using shorter.symm, rest.symm⟩
    | cons c others =>
        obtain ⟨rfl, -⟩ := List.cons.inj rest
        exact absurd (by simp [shorter]) free

/-- Where the same text is cut at two separators, the later cut is behind the whole first line. -/
theorem exists_piece_of_append_cons {line : List Char} (free : separator ∉ line)
    (same : line ++ separator :: after = before ++ separator :: more) (different : after ≠ more)
    : ∃ piece, before = line ++ separator :: piece ∧ after = piece ++ separator :: more := by
  obtain ⟨between, longer, rest⟩ := exists_between_of_append free same
  cases between with
  | nil => exact absurd (List.cons.inj rest).2 different
  | cons c piece =>
      obtain ⟨rfl, behind⟩ := List.cons.inj rest
      exact ⟨piece, longer, behind⟩

/-- Nothing before the split is a separator, by induction on the text. -/
theorem not_mem_of_splitOnce (found : splitOnce separator text = some (before, after))
    : separator ∉ before := by
  induction text generalizing before with
  | nil => simp [splitOnce] at found
  | cons c rest ih =>
      rw [splitOnce] at found
      split at found
      · cases found
        simp
      · rename_i other
        obtain ⟨⟨before', after'⟩, inner, same⟩ := Option.map_eq_some_iff.mp found
        cases same
        simp [ih inner, Ne.symm other]

theorem splitOnce_append (found : splitOnce separator text = some (before, after))
    : splitOnce separator (text ++ more) = some (before, after ++ more) := by
  rw [eq_of_splitOnce found, List.append_assoc, List.cons_append]
  exact splitOnce_append_cons (not_mem_of_splitOnce found)

/-- What follows a text without a separator extends the last piece of the text only, by induction
on the text.
-/
theorem splitOn_append_of_not_mem (free : separator ∉ more)
    : ∃ front last,
        text.splitOn separator = front ++ [last]
        ∧ (text ++ more).splitOn separator = front ++ [last ++ more] := by
  induction text with
  | nil => exact ⟨[], [], by simp, by simp [List.splitOn_eq_singleton free]⟩
  | cons c rest ih =>
      obtain ⟨front, last, split, longer⟩ := ih
      rw [List.cons_append, List.splitOn_cons_eq_if_modifyHead,
        List.splitOn_cons_eq_if_modifyHead, split, longer]
      split
      · exact ⟨[] :: front, last, rfl, rfl⟩
      · cases front with
        | nil => exact ⟨[], c :: last, rfl, rfl⟩
        | cons first others => exact ⟨(c :: first) :: others, last, rfl, rfl⟩

/-- A line feed ends the first line of a text. -/
theorem lines_append_newline {line : List Char} (free : '\n' ∉ line)
    : lines (line ++ '\n' :: text) = dropReturn line :: lines text := by
  obtain ⟨first, others, split⟩ :=
    List.exists_cons_of_ne_nil (List.splitOn_ne_nil '\n' text)
  rw [lines, lines, List.splitOn_append_cons_self, List.splitOn_eq_singleton free, split]
  rfl

theorem toList_newline : "\n".toList = ['\n'] := by
  decide +kernel

/-- Between the pieces of two texts there is one more separator, by induction on the first pieces. -/
theorem intercalate_append {between : List Char} {front back : List (List Char)}
    (nonempty : front ≠ []) (more : back ≠ [])
    : between.intercalate (front ++ back)
      = between.intercalate front ++ between ++ between.intercalate back := by
  induction front with
  | nil => exact absurd rfl nonempty
  | cons first others ih =>
      cases others with
      | nil =>
          obtain ⟨next, rest, rfl⟩ := List.exists_cons_of_ne_nil more
          rw [List.singleton_append, List.intercalate_cons_cons, List.intercalate_singleton]
      | cons second others =>
          rw [List.cons_append, List.cons_append, List.intercalate_cons_cons, ← List.cons_append,
            ih (List.cons_ne_nil _ _), List.intercalate_cons_cons]
          simp only [List.append_assoc]

/-- Joined texts follow each other with the separator before each but the first, by induction on
the texts.
-/
theorem toList_join_cons {between first : String} {texts : List String}
    : (join between (first :: texts)).toList
      = first.toList ++ texts.flatMap fun text => between.toList ++ text.toList := by
  rw [join, String.toList_ofList, List.map_cons]
  induction texts generalizing first with
  | nil => simp [List.intercalate]
  | cons second rest ih =>
      rw [List.map_cons, List.intercalate_cons_cons, ih, List.flatMap_cons]
      simp only [List.append_assoc]

/-- Where one text follows another, the second one starts a line of its own. -/
inductive StartsLine : List Char → List Char → Prop
  | first (more : List Char) : StartsLine [] more
  | after (front more : List Char) : StartsLine (front ++ ['\n']) more
  | own (text rest : List Char) : StartsLine text ('\n' :: rest)

end AddonPackager.Text
