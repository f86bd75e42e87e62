import AddonPackager.Locale.Fallback
import AddonPackager.Proofs.Catalog.Extension

/-! The supplement of a catalog: the entries of a reference that it lacks. With its supplement at
the end, the text of a catalog reads as the old catalog followed by these entries.
-/

namespace AddonPackager

open Text

namespace CatalogFormat

variable {format : CatalogFormat} {entries : List (String × String)}

theorem entriesChars_eq_nil_iff : format.entriesChars entries = [] ↔ entries = [] := by
  constructor
  · intro empty
    rw [entriesChars, List.flatMap_eq_nil_iff] at empty
    cases entries with
    | nil => rfl
    | cons first rest =>
        have none := empty first (by simp)
        cases format with
        | properties => simp [Properties.entryChars_properties] at none
        | dtd => simp [Dtd.entryChars_dtd] at none
  · rintro rfl
    rfl

end CatalogFormat

namespace Locale.References

variable {reference target : Catalog} {key text path : String} {entry : String × String}

-----------------------------------------------------------------------------------------
-- Missing entries
-----------------------------------------------------------------------------------------

theorem mem_missing_iff
    : entry ∈ missing reference target ↔ entry ∈ reference.entries ∧ entry.1 ∉ target.keys := by
  rw [missing, List.mem_filter, Bool.not_eq_true', Bool.eq_false_iff, ne_eq, Catalog.contains_iff]

theorem names_missing
    : Assoc.names (missing reference target) = reference.keys.filter (· ∉ target.keys) := by
  rw [missing, Catalog.keys.eq_1 reference, Assoc.names, Assoc.names, List.filter_map]
  congr 1
  apply List.filter_congr
  intro entry _
  rw [Function.comp_apply, Bool.eq_iff_iff, Bool.not_eq_true', Bool.eq_false_iff, ne_eq,
    Catalog.contains_iff, decide_eq_true_iff]

/-- A catalog with all keys of the reference misses none. -/
theorem missing_eq_nil_iff
    : missing reference target = [] ↔ ∀ key ∈ reference.keys, key ∈ target.keys := by
  rw [← List.map_eq_nil_iff (f := Prod.fst), ← Assoc.names, names_missing, List.filter_eq_nil_iff]
  simp

-----------------------------------------------------------------------------------------
-- The supplement
-----------------------------------------------------------------------------------------

theorem supplement_eq_empty (complete : missing reference target = [])
    : supplement reference target = "" := by
  simp [supplement, complete, String.join]

/-- Missing entries are supplemented on lines of their own. -/
theorem startsLine_supplement (incomplete : missing reference target ≠ [])
    : StartsLine target.raw.toList (supplement reference target).toList
      ∧ ((supplement reference target).toList
            = target.format.entriesChars (missing reference target)
          ∨ (supplement reference target).toList
            = '\n' :: target.format.entriesChars (missing reference target)) := by
  rw [supplement]
  generalize joined : String.join _ = added
  have chars : added.toList = target.format.entriesChars (missing reference target) := by
    rw [← joined]
    exact CatalogFormat.toList_join_entry
  split
  · rename_i empty
    rw [empty, String.toList_empty] at chars
    exact absurd (CatalogFormat.entriesChars_eq_nil_iff.mp chars.symm) incomplete
  · split
    · rename_i ended
      refine ⟨?_, .inl chars⟩
      rw [Bool.or_eq_true, decide_eq_true_iff] at ended
      rcases ended with empty | newline
      · rw [empty]
        exact .first _
      · obtain ⟨front, split⟩ := List.isSuffixOf_iff_suffix.mp newline
        rw [← split]
        exact .after front _
    · rw [String.toList_append, chars]
      exact ⟨.own _ _, .inr rfl⟩

/-- The text of a catalog with its supplement reads as the catalog with the missing entries at
its end. Their keys have to be ones that the format of the catalog can write.
-/
theorem parse_append_supplement (parsed : Catalog.parse text path = .ok (some target))
    (keys : ∀ key ∈ reference.keys, target.format.IsKey key.toList)
    (distinct : reference.keys.Nodup)
    : ∃ merged,
        Catalog.parse (text ++ supplement reference target) path = .ok (some merged)
        ∧ merged.format = target.format
        ∧ merged.entries = target.entries
            ++ (missing reference target).map target.format.rereadEntry := by
  by_cases complete : missing reference target = []
  · refine ⟨target, ?_, rfl, by simp [complete]⟩
    rw [supplement_eq_empty complete, String.append_empty]
    exact parsed
  · obtain ⟨⟨known, read, collected⟩, raw⟩ := Catalog.isReadFrom_of_parse parsed
    obtain ⟨seam, written⟩ := startsLine_supplement complete
    rw [raw] at seam
    have missingKeys : ∀ entry ∈ missing reference target,
        target.format.IsKey entry.1.toList := by
      intro entry member
      exact keys entry.1 (List.mem_map.mpr ⟨entry, (mem_missing_iff.mp member).1, rfl⟩)
    have entries := CatalogFormat.entries?_append read missingKeys seam written
    rw [← String.toList_append] at entries
    obtain ⟨merged, mergedParsed, format, mergedEntries⟩ :=
      Catalog.exists_parse (Catalog.format_of_parse parsed) entries
    refine ⟨merged, mergedParsed, format, ?_⟩
    have names : Assoc.names ((missing reference target).map target.format.rereadEntry)
        = reference.keys.filter (· ∉ target.keys) := by
      rw [← names_missing, Assoc.names, List.map_map]
      rfl
    rw [mergedEntries, collected]
    apply Catalog.collect_append
    · rw [names]
      exact distinct.filter _
    · intro key member
      rw [names, List.mem_filter, decide_eq_true_iff] at member
      rw [← collected]
      exact member.2

/-- A supplemented catalog has its old keys and then those it lacked, in the order of the
reference.
-/
theorem keys_supplemented {merged : Catalog}
    (entries : merged.entries = target.entries
      ++ (missing reference target).map target.format.rereadEntry)
    : merged.keys = target.keys ++ reference.keys.filter (· ∉ target.keys) := by
  rw [← names_missing, Catalog.keys, entries, Assoc.names_append, Catalog.keys, Assoc.names,
    Assoc.names, Assoc.names, List.map_map]
  rfl

theorem mem_keys_supplemented {merged : Catalog}
    (entries : merged.entries = target.entries
      ++ (missing reference target).map target.format.rereadEntry)
    (member : key ∈ reference.keys)
    : key ∈ merged.keys := by
  rw [keys_supplemented entries, List.mem_append, List.mem_filter, decide_eq_true_iff]
  by_cases present : key ∈ target.keys
  · exact .inl present
  · exact .inr ⟨member, present⟩

/-- A message of a supplemented catalog is its old one, or the one of the reference as it is read
back.
-/
theorem get?_supplemented {merged : Catalog}
    (entries : merged.entries = target.entries
      ++ (missing reference target).map target.format.rereadEntry)
    : merged.get? key
      = (target.get? key).or ((reference.get? key).map fun value =>
          String.ofList (target.format.reread value.toList)) := by
  rw [Catalog.get?, entries, Assoc.get?_append, Catalog.get?]
  cases old : Assoc.get? key target.entries with
  | some value => rfl
  | none =>
      have absent : target.contains key = false := by
        rw [Catalog.contains, Catalog.get?, old]
        rfl
      have kept : Assoc.get? key (missing reference target) = Assoc.get? key reference.entries :=
        Assoc.get?_filter (by simp [absent])
      rw [Option.none_or, Option.none_or, Catalog.get?, ← kept]
      exact Assoc.get?_map (fun value : String => String.ofList (target.format.reread value.toList))

end Locale.References

end AddonPackager
