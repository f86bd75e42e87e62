import AddonPackager.Catalog.Table
import AddonPackager.Proofs.Dict.Lookup

/-! Tables of messages. The index of a table tells exactly where its keys are: inserting a message
keeps that, whether the key is new or not, so the entries are an ordered map at every stage.
-/

namespace AddonPackager

/-- Behind the elements of a list stands the one that is added. -/
theorem getElem?_append_singleton_eq_some_iff {α : Type} {list : List α} {last element : α}
    {position : Nat}
    : (list ++ [last])[position]? = some element
      ↔ list[position]? = some element ∨ position = list.length ∧ last = element := by
  rcases Nat.lt_trichotomy position list.length with before | rfl | beyond
  · simp [List.getElem?_append_left before, Nat.ne_of_lt before]
  · simp
  · have outside : list[position]? = none := List.getElem?_eq_none (Nat.le_of_lt beyond)
    have farOutside : (list ++ [last])[position]? = none :=
      List.getElem?_eq_none (by rw [List.length_append]; exact beyond)
    simp [outside, farOutside, Nat.ne_of_gt beyond]

namespace Assoc

variable {α : Type} {name : String} {value : α} {pairs : List (String × α)} {position : Nat}

/-- Setting a name is changing the value at its position, by induction on the pairs. -/
theorem set_eq_modify (distinct : (names pairs).Nodup)
    (here : (names pairs)[position]? = some name)
    : set name value pairs = pairs.modify position fun pair => (pair.1, value) := by
  induction pairs generalizing position with
  | nil => simp at here
  | cons head rest ih =>
      obtain ⟨other, old⟩ := head
      obtain ⟨fresh, restDistinct⟩ := List.nodup_cons.mp distinct
      cases position with
      | zero =>
          cases here
          rw [set, if_pos rfl]
          rfl
      | succ position =>
          have later : (names rest)[position]? = some name := here
          have different : other ≠ name := by
            rintro rfl
            exact fresh (List.mem_of_getElem? later)
          rw [set, if_neg different, ih restDistinct later]
          rfl

end Assoc

namespace Catalog.Table

variable {table : Table} {known : List (String × String)} {key value : String} {position : Nat}

/-- The index tells the position of every key of the entries, and no other. -/
def IsIndexed (table : Table) : Prop :=
  ∀ key position,
    table.index.get? key = some position ↔ (Assoc.names table.entries)[position]? = some key

-----------------------------------------------------------------------------------------
-- Indexed tables
-----------------------------------------------------------------------------------------

/-- A key has one position only, so no key stands twice. -/
theorem IsIndexed.nodup (indexed : table.IsIndexed) : (Assoc.names table.entries).Nodup := by
  rw [List.nodup_iff_getElem?_ne_getElem?]
  intro first second below inRange same
  have here := List.getElem?_eq_getElem inRange
  have there := (indexed _ _).mpr here
  have earlier := (indexed _ _).mpr (same.trans here)
  have positions := Option.some.inj (earlier.symm.trans there)
  omega

theorem IsIndexed.mem_iff (indexed : table.IsIndexed)
    : key ∈ Assoc.names table.entries ↔ ∃ position, table.index.get? key = some position := by
  simp only [List.mem_iff_getElem?, indexed key]

theorem IsIndexed.not_mem (indexed : table.IsIndexed) (new : table.index.get? key = none)
    : key ∉ Assoc.names table.entries := by
  rw [indexed.mem_iff]
  rintro ⟨position, found⟩
  cases new.symm.trans found

/-- Reading at an indexed position never fails: there is an entry, and it has the key. -/
theorem IsIndexed.exists_entry (indexed : table.IsIndexed)
    (found : table.index.get? key = some position)
    : ∃ value, table.entries[position]? = some (key, value) := by
  have here := (indexed key position).mp found
  rw [Assoc.names, List.getElem?_map, Option.map_eq_some_iff] at here
  obtain ⟨⟨other, value⟩, listed, rfl⟩ := here
  exact ⟨value, listed⟩

/-- Looking a key up through the index is looking it up among the entries. -/
theorem IsIndexed.get?_eq (indexed : table.IsIndexed)
    : table.get? key = Assoc.get? key table.entries := by
  rw [get?]
  cases found : table.index.get? key with
  | none =>
      rw [Assoc.get?_eq_none_iff.mpr (indexed.not_mem found)]
      rfl
  | some position =>
      obtain ⟨value, listed⟩ := indexed.exists_entry found
      rw [Assoc.get?_of_mem indexed.nodup (List.mem_of_getElem? listed), Option.bind_some, listed]
      rfl

theorem IsIndexed.contains_eq (indexed : table.IsIndexed)
    : table.contains key = (Assoc.get? key table.entries).isSome := by
  rw [contains, Dict.contains, Bool.eq_iff_iff, Assoc.isSome_get?_iff, indexed.mem_iff,
    Option.isSome_iff_exists]

-----------------------------------------------------------------------------------------
-- Inserting
-----------------------------------------------------------------------------------------

/-- Through a right index a message is set in the place of its key, or at the end. -/
theorem IsIndexed.entries_insert (indexed : table.IsIndexed)
    : (table.insert key value).entries = Assoc.set key value table.entries := by
  rw [insert]
  cases found : table.index.get? key with
  | none => exact (Assoc.set_of_not_mem (indexed.not_mem found)).symm
  | some position =>
      exact (Assoc.set_eq_modify indexed.nodup ((indexed key position).mp found)).symm

/-- Inserting a message keeps the index right. -/
theorem IsIndexed.insert (indexed : table.IsIndexed) : (table.insert key value).IsIndexed := by
  intro other position
  rw [indexed.entries_insert, Assoc.names_set, Table.insert]
  cases found : table.index.get? key with
  | some known =>
      rw [if_pos (indexed.mem_iff.mpr ⟨known, found⟩)]
      exact indexed other position
  | none =>
      have absent := indexed.not_mem found
      have sameLength : (Assoc.names table.entries).length = table.entries.length :=
        List.length_map _
      rw [if_neg absent, Dict.get?_insert, getElem?_append_singleton_eq_some_iff, sameLength]
      by_cases here : key = other
      · subst here
        have notThere : (Assoc.names table.entries)[position]? ≠ some key :=
          fun there => absent (List.mem_of_getElem? there)
        simp [notThere, eq_comm]
      · simp [here, indexed other position]

theorem ofEntries_append_singleton
    : ofEntries (known ++ [(key, value)]) = (ofEntries known).insert key value := by
  rw [ofEntries, List.foldl_append]
  rfl

/-- The index is right at every stage, by induction on the entries from their end. -/
theorem isIndexed_ofEntries : (ofEntries known).IsIndexed := by
  induction known using List.reverseRecOn with
  | nil =>
      intro key position
      simp [ofEntries, empty]
  | append_singleton entries entry ih =>
      rw [ofEntries_append_singleton]
      exact ih.insert

end Catalog.Table

end AddonPackager
