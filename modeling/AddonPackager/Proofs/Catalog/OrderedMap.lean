import AddonPackager.Proofs.Catalog.DtdGrammar

/-! A catalog that has been read is an ordered map. The entries of its text are inserted one after the
other, and at every stage the index tells where each key is. A properties text lists its entries and
its unrecognized lines line by line, and each line is one thing only.
-/

namespace AddonPackager

open Text

namespace Properties

variable {line : List Char} {kind : Line}

-----------------------------------------------------------------------------------------
-- Lines
-----------------------------------------------------------------------------------------

/-- The first character of a line that is no blank opens a comment. -/
def OpensComment (line : List Char) : Prop :=
  ∃ blanks mark rest,
    IsBlank blanks ∧ (mark = '#' ∨ mark = '!') ∧ line = blanks ++ mark :: rest

/-- What makes a line the thing that it is. An entry is split at its first equals sign. -/
def Line.Describes : Line → List Char → Prop
  | .comment, line => OpensComment line
  | .entry key value, line =>
      ¬ OpensComment line
      ∧ ∃ before after,
          line = before ++ '=' :: after ∧ '=' ∉ before ∧ key = trim before ∧ value = trim after
  | .blank, line => IsBlank line
  | .unrecognized, line => ¬ OpensComment line ∧ '=' ∉ line ∧ ¬ IsBlank line

theorem isComment_iff : isComment line = true ↔ OpensComment line := by
  obtain ⟨blanks, blank, split⟩ := exists_append_trimStart line
  constructor
  · intro comment
    unfold isComment at comment
    split at comment
    · rename_i mark rest kept
      rw [Bool.or_eq_true, beq_iff_eq, beq_iff_eq] at comment
      exact ⟨blanks, mark, rest, blank, comment, kept ▸ split⟩
    · cases comment
  · rintro ⟨blanks, mark, rest, blank, rfl | rfl, rfl⟩
    · rw [isComment, trimStart_append blank]
      rfl
    · rw [isComment, trimStart_append blank]
      rfl

theorem not_opensComment_of_isBlank (blank : IsBlank line) : ¬ OpensComment line := by
  rw [← isComment_iff, isComment, trimStart_eq_nil_iff.mpr blank]
  exact Bool.false_ne_true

/-- A line is read as what it is. -/
theorem describes_readLine (line : List Char) : (readLine line).Describes line := by
  rw [readLine]
  split
  · rename_i comment
    exact isComment_iff.mp comment
  · rename_i noComment
    rw [isComment_iff] at noComment
    split
    · rename_i before after found
      exact ⟨noComment, before, after, eq_of_splitOnce found, not_mem_of_splitOnce found, rfl, rfl⟩
    · rename_i noEquals
      rw [splitOnce_eq_none_iff] at noEquals
      split
      · rename_i empty
        exact isEmpty_trim_iff.mp empty
      · rename_i nonempty
        exact ⟨noComment, noEquals, fun blank => nonempty (isEmpty_trim_iff.mpr blank)⟩

/-- A line is one thing only, and is read as that. -/
theorem readLine_eq_iff : readLine line = kind ↔ kind.Describes line := by
  constructor
  · rintro rfl
    exact describes_readLine line
  · intro describes
    cases kind with
    | comment => exact if_pos (isComment_iff.mpr describes)
    | entry key value =>
        obtain ⟨noComment, before, after, rfl, free, rfl, rfl⟩ := describes
        rw [readLine, if_neg (mt isComment_iff.mp noComment), splitOnce_append_cons free]
    | blank =>
        have noComment := not_opensComment_of_isBlank describes
        rw [readLine, if_neg (mt isComment_iff.mp noComment),
          splitOnce_eq_none_iff.mpr (IsBlank.not_mem_equals describes)]
        exact if_pos (isEmpty_trim_iff.mpr describes)
    | unrecognized =>
        obtain ⟨noComment, noEquals, notBlank⟩ := describes
        rw [readLine, if_neg (mt isComment_iff.mp noComment), splitOnce_eq_none_iff.mpr noEquals]
        exact if_neg (mt isEmpty_trim_iff.mp notBlank)

theorem existsUnique_describes (line : List Char) : ∃! kind : Line, kind.Describes line :=
  ⟨readLine line, describes_readLine line, fun _ describes => (readLine_eq_iff.mpr describes).symm⟩

/-- Lines with the entries and the unrecognized lines among them, both in the order of the lines. -/
inductive Accounts : List (List Char) → List (String × String) → List String → Prop
  | nil : Accounts [] [] []
  | comment {line rest known others} (is : Line.comment.Describes line)
    (below : Accounts rest known others)
    : Accounts (line :: rest) known others
  | entry {line key value rest known others} (is : (Line.entry key value).Describes line)
    (below : Accounts rest known others)
    : Accounts (line :: rest) ((String.ofList key, String.ofList value) :: known) others
  | blank {line rest known others} (is : Line.blank.Describes line)
    (below : Accounts rest known others)
    : Accounts (line :: rest) known others
  | unrecognized {line rest known others} (is : Line.unrecognized.Describes line)
    (below : Accounts rest known others)
    : Accounts (line :: rest) known (String.ofList line :: others)

/-- Reading lines accounts for them, by induction on the lines. -/
theorem accounts_lines (lines : List (List Char))
    : Accounts lines (lines.filterMap entryOf)
        ((lines.filter (readLine · = .unrecognized)).map String.ofList) := by
  induction lines with
  | nil => exact .nil
  | cons line rest ih =>
      have describes := describes_readLine line
      cases read : readLine line with
      | comment =>
          rw [read] at describes
          simpa [entryOf, read] using Accounts.comment describes ih
      | entry key value =>
          rw [read] at describes
          simpa [entryOf, read] using Accounts.entry describes ih
      | blank =>
          rw [read] at describes
          simpa [entryOf, read] using Accounts.blank describes ih
      | unrecognized =>
          rw [read] at describes
          simpa [entryOf, read] using Accounts.unrecognized describes ih

end Properties

-----------------------------------------------------------------------------------------
-- Entries of a text
-----------------------------------------------------------------------------------------

/-- The entries of a text in file order and the unrecognized lines, of which only a properties text
has any.
-/
def CatalogFormat.Lists : CatalogFormat → List Char → List (String × String) → List String → Prop
  | .properties, text, known, others => Properties.Accounts (lines text) known others
  | .dtd, text, known, others =>
      others = []
      ∧ ∃ stripped declarations,
          Dtd.Uncommented text stripped
          ∧ Dtd.Declares stripped declarations
          ∧ known = declarations.map Dtd.Declaration.entry

namespace Catalog

variable {text path : String} {catalog : Catalog} {known : List (String × String)}

/-- A file that has been read gives the entries that its text lists, inserted into a table. -/
theorem exists_lists_of_parse (parsed : parse text path = .ok (some catalog))
    : ∃ known,
        catalog.format.Lists text.toList known catalog.unrecognized
        ∧ catalog.entries = (Table.ofEntries known).entries := by
  obtain ⟨format, -, found⟩ := parse_eq_some_iff.mp parsed
  cases format with
  | properties =>
      cases found
      exact ⟨_, Properties.accounts_lines _, rfl⟩
  | dtd =>
      simp only [read] at found
      split at found
      · rename_i known entries
        cases found
        obtain ⟨declarations, declares, rfl⟩ := Dtd.entries_eq_ok_iff.mp entries
        exact ⟨_, ⟨rfl, _, declarations, Dtd.uncommented_removeComments, declares, rfl⟩, rfl⟩
      · cases found

-----------------------------------------------------------------------------------------
-- Ordered maps
-----------------------------------------------------------------------------------------

/-- A table is the ordered map of entries: its keys stand in the order in which they first appear,
each once and with its last message, and the index tells where.
-/
structure Table.IsMapOf (table : Table) (known : List (String × String)) : Prop where
  distinct : (Assoc.names table.entries).Nodup
  order : Assoc.names table.entries = (Assoc.names known).eraseDups
  last
    : ∀ key value,
        (key, value) ∈ table.entries
        ↔ ∃ before after, known = before ++ (key, value) :: after ∧ key ∉ Assoc.names after
  positions
    : ∀ key position,
        table.index.get? key = some position
        ↔ ∃ value, table.entries[position]? = some (key, value)
  found : ∀ key value, table.get? key = some value ↔ (key, value) ∈ table.entries
  contained : ∀ key, table.contains key = true ↔ key ∈ Assoc.names table.entries

theorem Table.isMapOf_ofEntries : (ofEntries known).IsMapOf known := by
  have indexed : (ofEntries known).IsIndexed := isIndexed_ofEntries
  have lookup {key value : String} : Assoc.get? key (ofEntries known).entries = some value
      ↔ (key, value) ∈ (ofEntries known).entries :=
    ⟨Assoc.mem_of_get?, Assoc.get?_of_mem indexed.nodup⟩
  refine ⟨indexed.nodup, names_collect, ?_, ?_, ?_, ?_⟩
  · intro key value
    rw [← lookup, ← Assoc.get?_reverse_eq_some_iff, ← get?_collect]
    rfl
  · intro key position
    refine ⟨indexed.exists_entry, ?_⟩
    rintro ⟨value, here⟩
    rw [indexed key position, Assoc.names, List.getElem?_map, here]
    rfl
  · intro key value
    rw [indexed.get?_eq, lookup]
  · intro key
    rw [indexed.contains_eq, Assoc.isSome_get?_iff]

/-- A catalog that has been read keeps the text, and its entries are the ordered map of those that
the text lists. At every stage of reading the index tells exactly where the keys are, so lookups
through it never fail and agree with the entries. Each line of a properties text is a comment, an
entry, blank or unrecognized, and no two of these.
-/
theorem exists_isMapOf_of_parse (parsed : parse text path = .ok (some catalog))
    : catalog.raw = text
      ∧ (∀ line, ∃! kind : Properties.Line, kind.Describes line)
      ∧ ∃ known,
          catalog.format.Lists text.toList known catalog.unrecognized
          ∧ catalog.entries = (Table.ofEntries known).entries
          ∧ (∀ earlier, earlier <+: known → (Table.ofEntries earlier).IsMapOf earlier)
          ∧ ∀ key,
              catalog.get? key = (Table.ofEntries known).get? key
              ∧ catalog.contains key = (Table.ofEntries known).contains key := by
  obtain ⟨known, lists, same⟩ := exists_lists_of_parse parsed
  have indexed : (Table.ofEntries known).IsIndexed := Table.isIndexed_ofEntries
  refine ⟨(isReadFrom_of_parse parsed).raw, Properties.existsUnique_describes, known, lists, same,
    fun earlier _ => Table.isMapOf_ofEntries, fun key => ⟨?_, ?_⟩⟩
  · rw [get?, same, indexed.get?_eq]
  · rw [contains, get?, same, indexed.contains_eq]

/-- A text with a line of each sort, and with a key that stands on two lines. -/
def mixedText : String :=
  "a=1\r\n  # note\n\nno entry\n b = x=y \na=3"

/-- The repeated key keeps its position, and the later one its own. -/
theorem exists_isMapOf_of_parse_mixed
    : parse mixedText "x.properties"
        = .ok (some ⟨.properties, [("a", "3"), ("b", "x=y")], mixedText, ["no entry"]⟩)
      ∧ ∃ known,
          Properties.Accounts (lines mixedText.toList) known ["no entry"]
          ∧ (Table.ofEntries known).entries = [("a", "3"), ("b", "x=y")]
          ∧ (Table.ofEntries known).index.get? "a" = some 0
          ∧ (Table.ofEntries known).index.get? "b" = some 1
          ∧ (Table.ofEntries known).get? "a" = some "3" := by
  have parsed : parse mixedText "x.properties"
      = .ok (some ⟨.properties, [("a", "3"), ("b", "x=y")], mixedText, ["no entry"]⟩) := by
    decide +kernel
  obtain ⟨-, -, known, accounts, same, stages, lookups⟩ := exists_isMapOf_of_parse parsed
  have map := stages known List.prefix_rfl
  refine ⟨parsed, known, accounts, same.symm, ?_, ?_, ?_⟩
  · rw [map.positions, ← same]
    exact ⟨"3", rfl⟩
  · rw [map.positions, ← same]
    exact ⟨"x=y", rfl⟩
  · rw [map.found, ← same]
    exact List.mem_cons_self

end Catalog

end AddonPackager
