import AddonPackager.Text.Search
import Mathlib.Data.List.Infix

/-! Finding texts inside texts. What is found in a text is found in a longer one, and a pattern
without a certain character is not found across that character.
-/

namespace AddonPackager.Text

variable {start pattern text rest before after more : List Char} {separator : Char}

-----------------------------------------------------------------------------------------
-- Starts
-----------------------------------------------------------------------------------------

theorem stripPrefix?_append_self : stripPrefix? start (start ++ rest) = some rest :=
  stripPrefix?_eq_some_iff.mpr rfl

theorem stripPrefix?_eq_none_iff : stripPrefix? start text = none ↔ ¬ start <+: text := by
  rw [Option.eq_none_iff_forall_ne_some]
  constructor
  · rintro none ⟨rest, split⟩
    exact none rest (stripPrefix?_eq_some_iff.mpr split.symm)
  · intro none rest found
    exact none ⟨rest, (stripPrefix?_eq_some_iff.mp found).symm⟩

/-- A start that is found stays found in a longer text. -/
theorem stripPrefix?_append (found : stripPrefix? start text = some rest)
    : stripPrefix? start (text ++ more) = some (rest ++ more) := by
  rw [stripPrefix?_eq_some_iff] at found ⊢
  rw [found, List.append_assoc]

/-- A start without the separator lies before it or is not there. -/
theorem prefix_append_separator (free : separator ∉ start)
    : start <+: text ++ separator :: more ↔ start <+: text := by
  constructor
  · intro starts
    rcases List.prefix_or_prefix_of_prefix starts (List.prefix_append text _) with
      inside | beyond
    · exact inside
    · obtain ⟨tail, rfl⟩ := beyond
      cases tail with
      | nil => simp
      | cons c tail =>
          rw [List.prefix_append_right_inj, List.cons_prefix_cons] at starts
          exact absurd (by simp [starts.1]) free
  · intro starts
    exact starts.trans (List.prefix_append _ _)

theorem stripPrefix?_append_separator (free : separator ∉ start)
    (absent : stripPrefix? start text = none)
    : stripPrefix? start (text ++ separator :: more) = none := by
  rw [stripPrefix?_eq_none_iff] at absent ⊢
  rwa [prefix_append_separator free]

-----------------------------------------------------------------------------------------
-- Cuts
-----------------------------------------------------------------------------------------

/-- A pattern that is found first stays found first in a longer text, by induction on the text.
-/
theorem cut_append (found : cut pattern text = some (before, after))
    : cut pattern (text ++ more) = some (before, after ++ more) := by
  induction text generalizing before with
  | nil =>
      rw [cut] at found
      split at found
      · rename_i empty
        rw [List.isEmpty_iff] at empty
        subst empty
        cases found
        cases more <;> simp [cut, stripPrefix?]
      · simp at found
  | cons c rest ih =>
      rw [cut] at found
      rw [List.cons_append, cut]
      cases stripped : stripPrefix? pattern (c :: rest) with
      | some inner =>
          rw [stripped] at found
          cases found
          rw [← List.cons_append, stripPrefix?_append stripped]
      | none =>
          rw [stripped] at found
          obtain ⟨⟨before', after'⟩, inner, same⟩ := Option.map_eq_some_iff.mp found
          cases same
          cases longer : stripPrefix? pattern (c :: (rest ++ more)) with
          | none => simp [ih inner]
          | some beyond =>
              -- A start of the longer text that reaches beyond the text would overlap a find.
              exfalso
              rw [stripPrefix?_eq_none_iff] at stripped
              rw [stripPrefix?_eq_some_iff] at longer
              have starts : pattern <+: (c :: rest) ++ more := ⟨beyond, by simp [longer]⟩
              have fits : pattern.length ≤ (c :: rest).length := by
                have := congrArg List.length (eq_of_cut inner)
                simp at this ⊢
                omega
              exact stripped
                (List.prefix_of_prefix_length_le starts (List.prefix_append _ _) fits)

/-- A pattern without the separator that stands on neither side of it is not there, by induction
on the text.
-/
theorem cut_append_separator (free : separator ∉ pattern) (absent : cut pattern text = none)
    (absentAfter : cut pattern more = none)
    : cut pattern (text ++ separator :: more) = none := by
  have nonempty : pattern ≠ [] := by
    rintro rfl
    cases more <;> simp [cut, stripPrefix?] at absentAfter
  induction text with
  | nil =>
      have here : stripPrefix? pattern ([] ++ separator :: more) = none :=
        stripPrefix?_append_separator free (by cases pattern <;> simp_all [stripPrefix?])
      rw [List.nil_append] at here ⊢
      rw [cut, here]
      simp [absentAfter]
  | cons c rest ih =>
      rw [cut] at absent
      split at absent
      · simp at absent
      · rename_i notHere
        have later : cut pattern rest = none := by simpa using absent
        have here : stripPrefix? pattern (c :: rest ++ separator :: more) = none :=
          stripPrefix?_append_separator free notHere
        rw [List.cons_append] at here ⊢
        rw [cut, here]
        simp [ih later]

/-- A pattern is cut nowhere exactly if it is no part of the text, by induction on the text. -/
theorem cut_eq_none_iff : cut pattern text = none ↔ ¬ pattern <:+: text := by
  induction text with
  | nil => simp [cut]
  | cons c rest ih =>
      rw [cut, List.infix_cons_iff, not_or, ← stripPrefix?_eq_none_iff, ← ih]
      cases stripPrefix? pattern (c :: rest) <;> simp

/-- A text that is cut where a pattern stands first. -/
structure IsCut (pattern text before after : List Char) : Prop where
  whole : text = before ++ pattern ++ after
  first : ∀ earlier later, text = earlier ++ pattern ++ later → before.length ≤ earlier.length

/-- No occurrence of the pattern starts before the cut, by induction on the text. -/
theorem length_le_of_cut {earlier later : List Char} (found : cut pattern text = some (before, after))
    (split : text = earlier ++ pattern ++ later)
    : before.length ≤ earlier.length := by
  induction text generalizing before earlier with
  | nil =>
      rw [cut] at found
      split at found
      · cases found
        exact Nat.zero_le _
      · cases found
  | cons c rest ih =>
      rw [cut] at found
      cases stripped : stripPrefix? pattern (c :: rest) with
      | some inner =>
          rw [stripped] at found
          cases found
          exact Nat.zero_le _
      | none =>
          rw [stripped] at found
          obtain ⟨⟨before', after'⟩, inner, same⟩ := Option.map_eq_some_iff.mp found
          cases same
          cases earlier with
          | nil =>
              rw [List.nil_append] at split
              rw [stripPrefix?_eq_some_iff.mpr split] at stripped
              cases stripped
          | cons d earlier =>
              rw [List.cons_append, List.cons_append] at split
              exact Nat.succ_le_succ (ih inner (List.cons.inj split).2)

/-- What follows some occurrence of the pattern is a part of what follows the first one. -/
theorem suffix_of_cut {earlier later : List Char} (found : cut pattern text = some (before, after))
    (split : text = earlier ++ pattern ++ later)
    : later <:+ after := by
  have short := length_le_of_cut found split
  have whole := eq_of_cut found
  refine List.suffix_of_suffix_length_le ⟨earlier ++ pattern, split.symm⟩
    ⟨before ++ pattern, whole.symm⟩ ?_
  have lengths := congrArg List.length (split.symm.trans whole)
  simp only [List.length_append] at lengths
  omega

/-- A text is cut at the first occurrence of the pattern, and at no other. -/
theorem cut_eq_some_iff
    : cut pattern text = some (before, after) ↔ IsCut pattern text before after := by
  constructor
  · intro found
    exact ⟨eq_of_cut found, fun earlier later => length_le_of_cut found⟩
  · rintro ⟨whole, first⟩
    cases found : cut pattern text with
    | none => exact absurd ⟨before, after, whole.symm⟩ (cut_eq_none_iff.mp found)
    | some result =>
        obtain ⟨before', after'⟩ := result
        have whole' := eq_of_cut found
        have sameLength : before.length = before'.length :=
          Nat.le_antisymm (first before' after' whole') (length_le_of_cut found whole)
        rw [whole, List.append_assoc, List.append_assoc] at whole'
        obtain ⟨sameBefore, same⟩ := List.append_inj whole' sameLength
        rw [sameBefore, List.append_cancel_left same]

end AddonPackager.Text
