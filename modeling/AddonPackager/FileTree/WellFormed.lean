import AddonPackager.FileTree.Basic

/-! Changing entries keeps directories well-formed: names stay proper and in order.
-/

namespace AddonPackager

/-- Entries whose directory is well-formed. -/
def Entries.WellFormed (entries : Entries) : Prop :=
  (Node.directory entries).WellFormed

namespace Entries

variable {entries : Entries} {name : String} {node : Node}

/-- The three parts of well-formedness of a directory. -/
theorem wellFormed_iff
    : entries.WellFormed
      ↔ Assoc.Ascending entries
        ∧ (∀ entry ∈ entries, isEntryName entry.1 = true)
        ∧ ∀ entry ∈ entries, entry.2.WellFormed := by
  constructor
  · rintro ⟨⟩
    exact ⟨‹_›, ‹_›, ‹_›⟩
  · rintro ⟨ascending, named, inner⟩
    exact .directory entries ascending named inner

/-- A directory without entries is well-formed. -/
theorem wellFormed_nil : WellFormed [] :=
  wellFormed_iff.mpr (by simp [Assoc.Ascending])

/-- A well-formed node may be set under a proper name. -/
theorem WellFormed.set (wellFormed : entries.WellFormed) (proper : isEntryName name = true)
    (nodeWellFormed : node.WellFormed) : (entries.set name node).WellFormed := by
  obtain ⟨ascending, named, inner⟩ := wellFormed_iff.mp wellFormed
  refine wellFormed_iff.mpr ⟨ascending.place, ?_, ?_⟩
  · intro entry member
    rcases Assoc.mem_place member with h | h
    · exact h ▸ proper
    · exact named entry h
  · intro entry member
    rcases Assoc.mem_place member with h | h
    · exact h ▸ nodeWellFormed
    · exact inner entry h

theorem WellFormed.erase (wellFormed : entries.WellFormed) : (entries.erase name).WellFormed := by
  obtain ⟨ascending, named, inner⟩ := wellFormed_iff.mp wellFormed
  exact wellFormed_iff.mpr ⟨List.Pairwise.filter _ ascending,
    fun entry member => named entry (List.mem_filter.mp member).1,
    fun entry member => inner entry (List.mem_filter.mp member).1⟩

/-- What stands below a well-formed directory is well-formed and has a proper name. -/
theorem WellFormed.get? (wellFormed : entries.WellFormed)
    (found : entries.get? name = some node)
    : isEntryName name = true ∧ node.WellFormed := by
  obtain ⟨_, named, inner⟩ := wellFormed_iff.mp wellFormed
  exact ⟨named _ (Assoc.mem_of_get? found), inner _ (Assoc.mem_of_get? found)⟩

/-- Putting a node at a location keeps all directories on the way well-formed, by induction on
the location.
-/
theorem WellFormed.put? {location : Location} {result : Entries} (wellFormed : entries.WellFormed)
    (proper : isEntryName name = true) (nodeWellFormed : node.WellFormed)
    (done : entries.put? name node location = some result) : result.WellFormed := by
  induction location generalizing entries result with
  | nil =>
      simp only [Entries.put?, Option.some.injEq] at done
      exact done ▸ wellFormed.set proper nodeWellFormed
  | cons d rest ih =>
      simp only [Entries.put?] at done
      split at done
      · rename_i inner found
        obtain ⟨changed, put, rfl⟩ := Option.map_eq_some_iff.mp done
        obtain ⟨properD, innerWellFormed⟩ := wellFormed.get? found
        exact wellFormed.set properD (ih innerWellFormed put)
      · simp at done

/-- Taking a name out at a location keeps all directories on the way well-formed, by induction
on the location.
-/
theorem WellFormed.remove? {location : Location} {result : Entries}
    (wellFormed : entries.WellFormed)
    (done : entries.remove? name location = some result) : result.WellFormed := by
  induction location generalizing entries result with
  | nil =>
      simp only [Entries.remove?, Option.some.injEq] at done
      exact done ▸ wellFormed.erase
  | cons d rest ih =>
      simp only [Entries.remove?] at done
      split at done
      · rename_i inner found
        obtain ⟨changed, removed, rfl⟩ := Option.map_eq_some_iff.mp done
        obtain ⟨properD, innerWellFormed⟩ := wellFormed.get? found
        exact wellFormed.set properD (ih innerWellFormed removed)
      · simp at done

end Entries

end AddonPackager
