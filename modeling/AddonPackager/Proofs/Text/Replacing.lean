import AddonPackager.Proofs.Text.Searching

/-! Replacing a pattern, one occurrence after the other. A text before the first occurrence stays
as it is.
-/

namespace AddonPackager.Text

variable {first c : Char} {others new text rest after : List Char}

@[simp] theorem replaceFrom_nil : replaceFrom first others new [] = [] := by
  rw [replaceFrom]

/-- A character that starts no occurrence stays. -/
theorem replaceFrom_cons_of_ne (other : c ≠ first)
    : replaceFrom first others new (c :: rest) = c :: replaceFrom first others new rest := by
  rw [replaceFrom, if_neg other]

theorem replaceFrom_of_prefix (found : stripPrefix? others rest = some after)
    : replaceFrom first others new (first :: rest) = new ++ replaceFrom first others new after := by
  rw [replaceFrom, if_pos rfl]
  split
  · rename_i after' found'
    rw [found] at found'
    cases found'
    rfl
  · rename_i absent
    simp [found] at absent

/-- The first character of the pattern alone stays. -/
theorem replaceFrom_of_no_prefix (absent : stripPrefix? others rest = none)
    : replaceFrom first others new (first :: rest)
      = first :: replaceFrom first others new rest := by
  rw [replaceFrom, if_pos rfl]
  split
  · rename_i found
    simp [absent] at found
  · rfl

/-- A text without the first character of the pattern stays, by induction on it. -/
theorem replaceFrom_append_of_not_mem (free : first ∉ text)
    : replaceFrom first others new (text ++ rest) = text ++ replaceFrom first others new rest := by
  induction text with
  | nil => rfl
  | cons c text ih =>
      rw [List.mem_cons, not_or] at free
      rw [List.cons_append, replaceFrom_cons_of_ne (Ne.symm free.1), ih free.2, List.cons_append]

end AddonPackager.Text
