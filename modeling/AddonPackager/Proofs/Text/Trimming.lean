import AddonPackager.Text.Trim
import Mathlib.Data.List.DropRight

/-! Trimming a text. Blanks at either end do not count, and a trimmed text has none there.
-/

namespace AddonPackager.Text

open Unicode

variable {text blanks rest : List Char} {c : Char}

def IsBlank (text : List Char) : Prop :=
  ∀ c ∈ text, isBlank c = true

theorem IsBlank.reverse (blank : IsBlank text) : IsBlank text.reverse :=
  fun c member => blank c (List.mem_reverse.mp member)

/-- Trimming the end is dropping a blank suffix. -/
theorem trimEnd_eq : trimEnd text = text.rdropWhile isBlank := rfl

theorem trimStart_append (blank : IsBlank blanks) : trimStart (blanks ++ text) = trimStart text :=
  List.dropWhile_append_of_pos blank

theorem trimEnd_append (blank : IsBlank blanks) : trimEnd (text ++ blanks) = trimEnd text := by
  rw [trimEnd, List.reverse_append, List.dropWhile_append_of_pos blank.reverse, trimEnd]

/-- What is trimmed off the start of a text is blank. -/
theorem exists_append_trimStart (text : List Char)
    : ∃ blanks, IsBlank blanks ∧ text = blanks ++ trimStart text :=
  ⟨text.takeWhile isBlank, List.all_eq_true.mp List.all_takeWhile,
    List.takeWhile_append_dropWhile.symm⟩

/-- What follows a text that is not blank stays as it is. -/
theorem trimStart_append_of_ne_nil (kept : trimStart text ≠ [])
    : trimStart (text ++ rest) = trimStart text ++ rest := by
  have nonempty : (text.dropWhile isBlank).isEmpty = false := by
    simpa [trimStart] using kept
  rw [trimStart, List.dropWhile_append, nonempty]
  rfl

/-- Nothing is left of a text at its start exactly if it is blank. -/
theorem trimStart_eq_nil_iff : trimStart text = [] ↔ IsBlank text :=
  List.dropWhile_eq_nil_iff

theorem trim_append_left (blank : IsBlank blanks) : trim (blanks ++ text) = trim text := by
  rw [trim, trimStart_append blank, trim]

theorem trim_append_right (blank : IsBlank blanks) : trim (text ++ blanks) = trim text := by
  by_cases empty : trimStart text = []
  · have textBlank := trimStart_eq_nil_iff.mp empty
    rw [trim_append_left textBlank, trim, trim, empty, trimStart_eq_nil_iff.mpr blank]
  · rw [trim, trimStart_append_of_ne_nil empty, trimEnd_append blank, trim]

/-- Nothing is left of a trimmed text exactly if it is blank. -/
theorem trim_eq_nil_iff : trim text = [] ↔ IsBlank text := by
  rw [trim, trimEnd_eq, List.rdropWhile_eq_nil_iff]
  constructor
  · intro blank
    rw [← trimStart_eq_nil_iff]
    -- The first character that is kept at the start would be no blank.
    by_contra kept
    have first := List.head_dropWhile_not isBlank kept
    have blankFirst := blank ((trimStart text).head kept) (List.head_mem kept)
    exact Bool.false_ne_true (first.symm.trans blankFirst)
  · intro blank c member
    exact blank c ((List.dropWhile_suffix _).subset member)

theorem isEmpty_trim_iff : (trim text).isEmpty = true ↔ IsBlank text := by
  rw [List.isEmpty_iff, trim_eq_nil_iff]

theorem mem_of_mem_trim (member : c ∈ trim text) : c ∈ text :=
  (List.dropWhile_suffix _).subset ((List.rdropWhile_prefix isBlank _).subset member)

/-- The text from its first character that is not blank starts with no blank. -/
theorem isBlank_of_trimStart_eq_cons (kept : trimStart text = c :: rest) : isBlank c = false := by
  have nonempty : trimStart text ≠ [] := by simp [kept]
  have first := List.head_dropWhile_not isBlank nonempty
  simp only [← trimStart.eq_1, kept, List.head_cons] at first
  exact first

/-- A trimmed text starts with no blank. -/
theorem trimStart_trim : trimStart (trim text) = trim text := by
  cases trimmed : trim text with
  | nil => rfl
  | cons c rest =>
      obtain ⟨dropped, split⟩ : trim text <+: trimStart text :=
        List.rdropWhile_prefix isBlank _
      rw [trimmed, List.cons_append] at split
      have first := isBlank_of_trimStart_eq_cons split.symm
      simp [trimStart, first]

theorem trim_trim : trim (trim text) = trim text := by
  rw [trim, trimStart_trim, trim, trimEnd_eq, trimEnd_eq, List.rdropWhile_idempotent]

/-- A text without blanks is trimmed. -/
theorem trim_eq_self (solid : ∀ c ∈ text, isBlank c = false) : trim text = text := by
  have start : trimStart text = text := by
    cases text with
    | nil => rfl
    | cons c rest => exact List.dropWhile_cons_of_neg (by simp [solid c])
  rw [trim, start, trimEnd_eq, List.rdropWhile_eq_self_iff]
  intro nonempty
  simp [solid _ (List.getLast_mem nonempty)]

end AddonPackager.Text
