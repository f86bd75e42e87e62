import AddonPackager.Catalog.Basic
import AddonPackager.Proofs.Catalog.DtdEntries
import AddonPackager.Proofs.Catalog.PropertiesText
import AddonPackager.Proofs.Catalog.Table

/-! Reading catalogs, for both formats alike. What a catalog holds is collected from the entries
of its text; each key stands once, and it is one that an entry can be written with.
-/

namespace AddonPackager

open Text

variable {format : CatalogFormat} {known added : List (String × String)} {text path : String}
  {catalog : Catalog}

namespace CatalogFormat

def entries? : CatalogFormat → List Char → Option (List (String × String))
  | .properties, text => some (Properties.entries text)
  | .dtd, text => (Dtd.entries text).toOption

def IsKey : CatalogFormat → List Char → Prop
  | .properties => Properties.IsKey
  | .dtd => Dtd.IsKey

theorem entries?_dtd_eq_some_iff {text : List Char}
    : dtd.entries? text = some known ↔ Dtd.entries text = .ok known := by
  rw [entries?]
  cases Dtd.entries text <;> simp [Except.toOption]

theorem isKey_of_mem_entries? {text : List Char} {entry : String × String}
    (read : format.entries? text = some known) (member : entry ∈ known)
    : format.IsKey entry.1.toList := by
  cases format with
  | properties =>
      cases read
      exact (Properties.isKey_of_mem_entries member).1
  | dtd => exact Dtd.isKey_of_mem_entries (entries?_dtd_eq_some_iff.mp read) member

end CatalogFormat

namespace Catalog

-----------------------------------------------------------------------------------------
-- Collecting entries
-----------------------------------------------------------------------------------------

theorem collect_append_singleton {key value : String}
    : collect (known ++ [(key, value)]) = Assoc.set key value (collect known) := by
  rw [collect, Table.ofEntries_append_singleton, Table.isIndexed_ofEntries.entries_insert, collect]

/-- Collected keys stand in the order in which they first appear, by induction on the entries from
their end.
-/
theorem names_collect : Assoc.names (collect known) = (Assoc.names known).eraseDups := by
  induction known using List.reverseRecOn with
  | nil => rfl
  | append_singleton entries entry ih =>
      obtain ⟨key, value⟩ := entry
      rw [collect_append_singleton, Assoc.names_set, ih, Assoc.names_append, Assoc.names_cons,
        Assoc.names_nil, eraseDups_append_singleton]

/-- The last message of a key is collected, by induction on the entries from their end. -/
theorem get?_collect {key : String}
    : Assoc.get? key (collect known) = Assoc.get? key known.reverse := by
  induction known using List.reverseRecOn with
  | nil => rfl
  | append_singleton entries entry ih =>
      obtain ⟨other, value⟩ := entry
      rw [collect_append_singleton, Assoc.get?_set, ih, List.reverse_append, List.reverse_singleton,
        List.singleton_append, Assoc.get?_cons]

/-- Collected keys stand once. -/
theorem nodup_names_collect : (Assoc.names (collect known)).Nodup := by
  rw [names_collect]
  exact nodup_eraseDups _

/-- Every key of the entries is collected, and no other. -/
theorem mem_names_collect {key : String}
    : key ∈ Assoc.names (collect known) ↔ key ∈ Assoc.names known := by
  rw [names_collect, List.mem_eraseDups]

/-- A collected message is that of an entry. -/
theorem mem_of_get?_collect {key value : String}
    (found : Assoc.get? key (collect known) = some value)
    : (key, value) ∈ known := by
  rw [get?_collect] at found
  exact List.mem_reverse.mp (Assoc.mem_of_get? found)

/-- Entries with new keys, each once, are collected at the end in their order, by induction on
them.
-/
theorem collect_append (distinct : (Assoc.names added).Nodup)
    (fresh : ∀ key ∈ Assoc.names added, key ∉ Assoc.names (collect known))
    : collect (known ++ added) = collect known ++ added := by
  induction added generalizing known with
  | nil => simp
  | cons entry rest ih =>
      obtain ⟨key, value⟩ := entry
      rw [Assoc.names_cons, List.nodup_cons] at distinct
      have here : collect (known ++ [(key, value)]) = collect known ++ [(key, value)] := by
        have absent : key ∉ Assoc.names (collect known) := fresh key (by simp)
        rw [collect_append_singleton, Assoc.set_of_not_mem absent]
      have later : ∀ other ∈ Assoc.names rest,
          other ∉ Assoc.names (collect (known ++ [(key, value)])) := by
        intro other member
        rw [here, Assoc.names_append, List.mem_append, not_or]
        refine ⟨fresh other (by simp [member]), ?_⟩
        intro same
        rw [Assoc.names_cons, Assoc.names_nil, List.mem_singleton] at same
        exact distinct.1 (same ▸ member)
      rw [List.append_cons, ih distinct.2 later, here, List.append_assoc, List.singleton_append]

-----------------------------------------------------------------------------------------
-- Catalogs that have been read
-----------------------------------------------------------------------------------------

/-- A catalog is what reading a text in its format gives. -/
structure IsReadFrom (catalog : Catalog) (text : String) : Prop where
  entries : ∃ known, catalog.format.entries? text.toList = some known
    ∧ catalog.entries = collect known
  raw : catalog.raw = text

/-- A file is read in the format that its path names. -/
theorem parse_eq_some_iff
    : parse text path = .ok (some catalog)
      ↔ ∃ format, CatalogFormat.ofPath? path = some format ∧ read format text path = .ok catalog := by
  rw [parse]
  cases CatalogFormat.ofPath? path with
  | none => simp
  | some format => cases result : read format text path <;> simp [result, Except.map]

/-- Reading gives a catalog of the format it is done in, with the collected entries and the text.
-/
theorem isReadFrom_of_read (found : read format text path = .ok catalog)
    : catalog.format = format ∧ catalog.IsReadFrom text := by
  cases format with
  | properties =>
      cases found
      exact ⟨rfl, ⟨_, rfl, rfl⟩, rfl⟩
  | dtd =>
      simp only [read] at found
      split at found
      · rename_i known entries
        cases found
        exact ⟨rfl, ⟨known, CatalogFormat.entries?_dtd_eq_some_iff.mpr entries, rfl⟩, rfl⟩
      · simp at found

/-- The path that a text is read under shows in errors only. -/
theorem read_congr (other : String) (found : read format text path = .ok catalog)
    : read format text other = .ok catalog := by
  cases format with
  | properties => exact found
  | dtd =>
      simp only [read] at found ⊢
      split at found
      · rename_i known entries
        simpa [entries] using found
      · simp at found

/-- A file read into a catalog has a path that names its format. -/
theorem format_of_parse (parsed : parse text path = .ok (some catalog))
    : CatalogFormat.ofPath? path = some catalog.format := by
  obtain ⟨format, named, found⟩ := parse_eq_some_iff.mp parsed
  rw [named, (isReadFrom_of_read found).1]

/-- A file read into a catalog gives the collected entries of its text. -/
theorem isReadFrom_of_parse (parsed : parse text path = .ok (some catalog))
    : catalog.IsReadFrom text := by
  obtain ⟨format, -, found⟩ := parse_eq_some_iff.mp parsed
  exact (isReadFrom_of_read found).2

/-- A text with entries is read into a catalog that collects them. -/
theorem exists_parse (named : CatalogFormat.ofPath? path = some format)
    (entries : format.entries? text.toList = some known)
    : ∃ catalog,
        parse text path = .ok (some catalog)
        ∧ catalog.format = format ∧ catalog.entries = collect known := by
  cases format with
  | properties =>
      cases entries
      exact ⟨_, parse_eq_some_iff.mpr ⟨_, named, rfl⟩, rfl, rfl⟩
  | dtd =>
      have found : read .dtd text path = .ok ⟨.dtd, collect known, text, []⟩ := by
        simp only [read, CatalogFormat.entries?_dtd_eq_some_iff.mp entries]
      exact ⟨_, parse_eq_some_iff.mpr ⟨_, named, found⟩, rfl, rfl⟩

/-- Reading into a catalog depends on the path through its format only. -/
theorem parse_congr {other : String}
    (same : CatalogFormat.ofPath? path = CatalogFormat.ofPath? other)
    (parsed : parse text path = .ok (some catalog))
    : parse text other = .ok (some catalog) := by
  obtain ⟨format, named, found⟩ := parse_eq_some_iff.mp parsed
  exact parse_eq_some_iff.mpr ⟨format, same ▸ named, read_congr other found⟩

theorem IsReadFrom.nodup_keys (isRead : catalog.IsReadFrom text) : catalog.keys.Nodup := by
  obtain ⟨⟨known, -, collected⟩, -⟩ := isRead
  rw [keys, collected]
  exact nodup_names_collect

theorem IsReadFrom.exists_entry (isRead : catalog.IsReadFrom text) {key value : String}
    (found : catalog.get? key = some value)
    : ∃ known, catalog.format.entries? text.toList = some known ∧ (key, value) ∈ known := by
  obtain ⟨⟨known, read, collected⟩, -⟩ := isRead
  rw [get?, collected] at found
  exact ⟨known, read, mem_of_get?_collect found⟩

theorem IsReadFrom.isKey (isRead : catalog.IsReadFrom text) {key : String}
    (member : key ∈ catalog.keys)
    : catalog.format.IsKey key.toList := by
  obtain ⟨value, found⟩ := Option.isSome_iff_exists.mp (Assoc.isSome_get?_iff.mpr member)
  obtain ⟨known, read, listed⟩ := isRead.exists_entry found
  exact CatalogFormat.isKey_of_mem_entries? read listed

theorem contains_iff {key : String} : catalog.contains key = true ↔ key ∈ catalog.keys :=
  Assoc.isSome_get?_iff

end Catalog

end AddonPackager
