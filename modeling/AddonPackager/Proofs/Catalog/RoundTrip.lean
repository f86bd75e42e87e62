import AddonPackager.Proofs.Catalog.Extension

/-! Writing a catalog and reading it back. The entries that a format can carry are exactly those
that come back: a text written from entries that are all representable reads as these entries, and
one entry that is not representable spoils the whole text.
-/

namespace AddonPackager

open Text

variable {format : CatalogFormat} {pairs : List (String × String)} {path : String}

namespace CatalogFormat

/-- A pair that an entry of a format can carry: a key that can be read, with a value that is read
back as it was written.
-/
structure Represents (format : CatalogFormat) (pair : String × String) : Prop where
  key : format.IsKey pair.1.toList
  value : format.KeepsValue pair.2.toList

/-- The text of a catalog with some entries. -/
def written (format : CatalogFormat) (pairs : List (String × String)) : String :=
  String.join (pairs.map fun pair => format.entry pair.1 pair.2)

theorem toList_written : (format.written pairs).toList = format.entriesChars pairs :=
  toList_join_entry

/-- Entries whose keys can be read are read back in order, with their values as far as these
survive.
-/
theorem entries?_written (keys : ∀ pair ∈ pairs, format.IsKey pair.1.toList)
    : format.entries? (format.written pairs).toList = some (pairs.map format.rereadEntry) := by
  have empty : format.entries? [] = some [] := by
    cases format with
    | properties => exact congrArg some Properties.entries_nil
    | dtd =>
        have declares : Dtd.Declares (Dtd.removeComments []) [] := by
          rw [Dtd.removeComments_nil]
          exact .nil
        exact entries?_dtd_eq_some_iff.mpr (Dtd.entries_eq_ok_iff.mpr ⟨[], declares, rfl⟩)
  rw [toList_written]
  exact entries?_append empty keys (.first _) (.inl rfl)

/-- An entry survives exactly if its value does. -/
theorem rereadEntry_eq_self_iff {pair : String × String}
    : format.rereadEntry pair = pair ↔ format.KeepsValue pair.2.toList := by
  obtain ⟨key, value⟩ := pair
  have same : String.ofList (format.reread value.toList) = value
      ↔ format.reread value.toList = value.toList := by
    rw [← String.toList_inj, String.toList_ofList]
  rw [← reread_eq_self_iff, rereadEntry, Prod.mk.injEq, same]
  simp

/-- Every line of written properties is recognized, by induction on the entries. -/
theorem unrecognized_entriesChars (keys : ∀ pair ∈ pairs, IsKey .properties pair.1.toList)
    : Properties.unrecognized (properties.entriesChars pairs) = [] := by
  induction pairs with
  | nil => rfl
  | cons pair rest ih =>
      have later := ih fun other member => keys other (List.mem_cons_of_mem _ member)
      rw [entriesChars] at later ⊢
      rw [List.flatMap_cons, Properties.unrecognized_entryChars (keys pair (by simp)), later]

end CatalogFormat

namespace Catalog

/-- Entries with keys that stand once are collected as they are. -/
theorem collect_of_nodup (distinct : (Assoc.names pairs).Nodup) : collect pairs = pairs := by
  have collected : collect ([] ++ pairs) = collect [] ++ pairs :=
    collect_append distinct fun key _ => List.not_mem_nil
  exact collected

/-- A text that is read into the entries it was written from has entries that can be carried: what
is read are the entries as far as they survive, so all of them have to.
-/
theorem represents_of_parse_written {catalog : Catalog} (distinct : (Assoc.names pairs).Nodup)
    (parsed : parse (format.written pairs) path = .ok (some catalog))
    (sameFormat : catalog.format = format) (sameEntries : catalog.entries = pairs)
    : ∀ pair ∈ pairs, format.Represents pair := by
  subst sameFormat
  have isRead := isReadFrom_of_parse parsed
  have keys : ∀ pair ∈ pairs, catalog.format.IsKey pair.1.toList := by
    intro pair member
    apply isRead.isKey
    rw [Catalog.keys, sameEntries]
    exact List.mem_map.mpr ⟨pair, member, rfl⟩
  obtain ⟨known, entries, collected⟩ := isRead.entries
  rw [CatalogFormat.entries?_written keys] at entries
  cases entries
  have sameNames : Assoc.names (pairs.map catalog.format.rereadEntry) = Assoc.names pairs := by
    simp [Assoc.names, CatalogFormat.rereadEntry]
  rw [collect_of_nodup (sameNames ▸ distinct), sameEntries] at collected
  have same : pairs.map id = pairs.map catalog.format.rereadEntry := by
    rw [List.map_id]
    exact collected
  intro pair member
  have survives : pair = catalog.format.rereadEntry pair := List.map_inj_left.mp same pair member
  exact ⟨keys pair member, CatalogFormat.rereadEntry_eq_self_iff.mp survives.symm⟩

/-- A text written from entries that can be carried is read into these entries. -/
theorem parse_written_of_represents (named : CatalogFormat.ofPath? path = some format)
    (distinct : (Assoc.names pairs).Nodup) (represents : ∀ pair ∈ pairs, format.Represents pair)
    : parse (format.written pairs) path
      = .ok (some ⟨format, pairs, format.written pairs, []⟩) := by
  have keys : ∀ pair ∈ pairs, format.IsKey pair.1.toList := fun pair member =>
    (represents pair member).key
  have survive : pairs.map format.rereadEntry = pairs.map id :=
    List.map_congr_left fun pair member =>
      CatalogFormat.rereadEntry_eq_self_iff.mpr (represents pair member).value
  have entries := CatalogFormat.entries?_written keys
  rw [survive, List.map_id] at entries
  refine parse_eq_some_iff.mpr ⟨format, named, ?_⟩
  cases format with
  | properties =>
      have recognized := CatalogFormat.unrecognized_entriesChars keys
      rw [← CatalogFormat.toList_written] at recognized
      rw [read, Option.some.inj entries, recognized, collect_of_nodup distinct]
  | dtd =>
      simp only [read, CatalogFormat.entries?_dtd_eq_some_iff.mp entries,
        collect_of_nodup distinct]

/-- Writing and reading are inverse exactly on the representable catalogs: a text written from
pairs with different keys is read into a catalog of these pairs in this order, without unrecognized
lines, if and only if an entry of the format can carry every pair.
-/
theorem parse_written_iff (named : CatalogFormat.ofPath? path = some format)
    (distinct : (Assoc.names pairs).Nodup)
    : parse (format.written pairs) path = .ok (some ⟨format, pairs, format.written pairs, []⟩)
      ↔ ∀ pair ∈ pairs, format.Represents pair := by
  constructor
  · intro parsed
    exact represents_of_parse_written distinct parsed rfl rfl
  · intro represents
    exact parse_written_of_represents named distinct represents

/-- Declarations with reserved characters in their values come back in their order. -/
theorem parse_written_reserved
    : CatalogFormat.ofPath? "x.dtd" = some .dtd
      ∧ parse (CatalogFormat.dtd.written [("menu.tip", "a < b & \"c\""), ("k-1", "&brand; <!--")])
            "x.dtd"
          = .ok (some
              ⟨.dtd, [("menu.tip", "a < b & \"c\""), ("k-1", "&brand; <!--")],
                CatalogFormat.dtd.written [("menu.tip", "a < b & \"c\""), ("k-1", "&brand; <!--")],
                []⟩) := by
  have named : CatalogFormat.ofPath? "x.dtd" = some .dtd := by decide
  refine ⟨named, (parse_written_iff named (by decide)).mpr ?_⟩
  intro pair member
  rcases List.mem_cons.mp member with rfl | later
  · exact ⟨⟨by decide, List.all_eq_true.mp (by decide)⟩, fun entity => by cases entity <;> decide⟩
  · rw [List.mem_singleton.mp later]
    exact ⟨⟨by decide, List.all_eq_true.mp (by decide)⟩, fun entity => by cases entity <;> decide⟩

end Catalog

end AddonPackager
