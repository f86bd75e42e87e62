import AddonPackager.Catalog.Format
import AddonPackager.Catalog.Properties
import AddonPackager.Proofs.Text.Splitting
import AddonPackager.Proofs.Text.Trimming

/-! Reading properties text line by line. The entries of a text are those of its lines, wherever
line feeds stand; a line that an entry was written on gives that entry back.
-/

namespace AddonPackager.Properties

open Text Unicode CatalogFormat

variable {text rest line blanks key value : List Char}

/-- The entry on a line, if the line is one. -/
def entryOf (line : List Char) : Option (String × String) :=
  match readLine line with
  | .entry key value => some (String.ofList key, String.ofList value)
  | _ => none

-----------------------------------------------------------------------------------------
-- Blanks at the end of a line
-----------------------------------------------------------------------------------------

theorem IsBlank.not_mem_equals (blank : IsBlank blanks) : '=' ∉ blanks :=
  fun member => absurd (blank '=' member) (by decide)

theorem isComment_append (blank : IsBlank blanks)
    : isComment (line ++ blanks) = isComment line := by
  unfold isComment
  cases kept : trimStart line with
  | nil =>
      rw [trimStart_append (trimStart_eq_nil_iff.mp kept), trimStart_eq_nil_iff.mpr blank]
  | cons c rest =>
      have longer : trimStart (line ++ blanks) = c :: rest ++ blanks := by
        rw [trimStart, List.dropWhile_append, ← trimStart.eq_1, kept]
        rfl
      rw [longer]
      rfl

theorem readLine_append (blank : IsBlank blanks) : readLine (line ++ blanks) = readLine line := by
  unfold readLine
  rw [isComment_append blank, trim_append_right blank]
  cases found : splitOnce '=' line with
  | none =>
      have free : '=' ∉ line ++ blanks := by
        rw [List.mem_append, not_or]
        exact ⟨splitOnce_eq_none_iff.mp found, IsBlank.not_mem_equals blank⟩
      rw [splitOnce_eq_none_iff.mpr free]
  | some parts =>
      obtain ⟨key, value⟩ := parts
      rw [splitOnce_append found]
      simp only [trim_append_right blank]

/-- The carriage return that ends a line with its line feed does not count. -/
theorem readLine_dropReturn : readLine (dropReturn line) = readLine line := by
  rw [dropReturn]
  split
  · rename_i last
    have blank : IsBlank ['\r'] := by
      intro c member
      rw [List.mem_singleton.mp member]
      decide
    have split := List.dropLast_append_getLast? '\r' last
    have same : readLine (line.dropLast ++ ['\r']) = readLine line.dropLast :=
      readLine_append blank
    rw [← same, split]
  · rfl

theorem entryOf_dropReturn : entryOf (dropReturn line) = entryOf line := by
  rw [entryOf, entryOf, readLine_dropReturn]

@[simp] theorem entryOf_nil : entryOf [] = none := by
  simp [entryOf, readLine, isComment, trimStart, splitOnce, trim, trimEnd]

-----------------------------------------------------------------------------------------
-- Entries of a text
-----------------------------------------------------------------------------------------

/-- How pieces between line feeds become lines does not change their entries, by induction on the
pieces.
-/
theorem filterMap_entryOf_linesOfPieces (pieces : List (List Char))
    : (linesOfPieces pieces).filterMap entryOf = pieces.filterMap entryOf := by
  induction pieces with
  | nil => rfl
  | cons first others ih =>
      cases others with
      | nil =>
          cases first <;> simp [linesOfPieces]
      | cons second others =>
          rw [linesOfPieces, List.filterMap_cons, List.filterMap_cons, entryOf_dropReturn, ih]
          simp

/-- The entries of a text are those on the pieces between its line feeds. -/
theorem entries_eq : entries text = (text.splitOn '\n').filterMap entryOf :=
  filterMap_entryOf_linesOfPieces _

@[simp] theorem entries_nil : entries [] = [] := by
  simp [entries_eq]

/-- A line feed separates entries, whatever stands around it. -/
theorem entries_append_newline : entries (text ++ '\n' :: rest) = entries text ++ entries rest := by
  simp only [entries_eq, List.splitOn_append_cons_self, List.filterMap_append]

/-- Entries do not depend on a text behind them that starts a line. -/
theorem entries_append (seam : StartsLine text rest)
    : entries (text ++ rest) = entries text ++ entries rest := by
  cases seam with
  | first => simp
  | after front =>
      have ending : entries (front ++ ['\n']) = entries front ++ entries [] :=
        entries_append_newline
      rw [ending, List.append_assoc, List.singleton_append, entries_append_newline, entries_nil,
        List.append_nil]
  | own text rest =>
      have start : entries ([] ++ '\n' :: rest) = entries [] ++ entries rest :=
        entries_append_newline
      rw [List.nil_append, entries_nil, List.nil_append] at start
      rw [entries_append_newline, start]

/-- A text on one line has at most one entry. -/
theorem entries_of_line (free : '\n' ∉ line) : entries line = (entryOf line).toList := by
  rw [entries_eq, List.splitOn_eq_singleton free]
  cases found : entryOf line <;> simp [found]

-----------------------------------------------------------------------------------------
-- Keys
-----------------------------------------------------------------------------------------

/-- What an entry can have as its key: a trimmed text on one line without an equals sign that
opens no comment.
-/
structure IsKey (key : List Char) : Prop where
  oneLine : '\n' ∉ key
  noEquals : '=' ∉ key
  trimmed : trim key = key
  noComment : ∀ c, key.head? = some c → c ≠ '#' ∧ c ≠ '!'

/-- The parts of an entry that a line without line feed holds. -/
theorem isKey_of_readLine (free : '\n' ∉ line) (read : readLine line = .entry key value)
    : IsKey key ∧ '\n' ∉ value ∧ trim value = value := by
  unfold readLine at read
  split at read
  · simp at read
  · rename_i noComment
    split at read
    · rename_i before after found
      cases read
      have split := eq_of_splitOnce found
      refine ⟨⟨?_, ?_, trim_trim, ?_⟩, ?_, trim_trim⟩
      · intro member
        exact free (split ▸ List.mem_append_left _ (mem_of_mem_trim member))
      · exact fun member => not_mem_of_splitOnce found (mem_of_mem_trim member)
      · intro c head
        -- The first character of the key is the first one of the line that is not blank.
        have first : ∃ tail, trimStart before = c :: tail := by
          obtain ⟨dropped, start⟩ : trim before <+: trimStart before :=
            List.rdropWhile_prefix isBlank _
          obtain ⟨tail, kept⟩ := List.head?_eq_some_iff.mp head
          exact ⟨tail ++ dropped, by rw [← start, kept, List.cons_append]⟩
        obtain ⟨tail, kept⟩ := first
        have lineStart : trimStart line = c :: (tail ++ '=' :: after) := by
          rw [split, trimStart, List.dropWhile_append, ← trimStart.eq_1, kept]
          rfl
        simpa [isComment, lineStart] using noComment
      · intro member
        exact free (split ▸ List.mem_append_right _ (List.mem_cons_of_mem _ (mem_of_mem_trim member)))
    · split at read <;> simp at read

/-- Every entry of a text has a proper key and a trimmed value on one line. -/
theorem isKey_of_mem_entries {entry : String × String} (member : entry ∈ entries text)
    : IsKey entry.1.toList ∧ '\n' ∉ entry.2.toList ∧ trim entry.2.toList = entry.2.toList := by
  rw [entries_eq] at member
  obtain ⟨line, lineMember, found⟩ := List.mem_filterMap.mp member
  unfold entryOf at found
  split at found
  · rename_i key value read
    cases found
    simpa using isKey_of_readLine (not_mem_of_mem_splitOn lineMember) read
  · simp at found

-----------------------------------------------------------------------------------------
-- Written entries
-----------------------------------------------------------------------------------------

theorem escapeProperty_of_not_mem (free : '\n' ∉ text) : escapeProperty text = text := by
  induction text with
  | nil => rfl
  | cons c rest ih =>
      rw [List.mem_cons, not_or] at free
      have later := ih free.2
      rw [escapeProperty] at later ⊢
      rw [List.flatMap_cons, later, if_neg (Ne.symm free.1)]
      rfl

theorem not_mem_escapeProperty : '\n' ∉ escapeProperty text := by
  intro member
  obtain ⟨c, -, written⟩ := List.mem_flatMap.mp member
  split at written
  · simp at written
  · rename_i other
    exact other (List.mem_singleton.mp written).symm

/-- A line that starts with a key and an equals sign is no comment. -/
theorem isComment_key (isKey : IsKey key) : isComment (key ++ '=' :: rest) = false := by
  cases key with
  | nil =>
      have start : trimStart ('=' :: rest) = '=' :: rest :=
        List.dropWhile_cons_of_neg (by decide)
      simp [isComment, start]
  | cons c tail =>
      have kept : trimStart (c :: tail) = c :: tail := by
        rw [← isKey.trimmed, trimStart_trim]
      have start : trimStart (c :: tail ++ '=' :: rest) = c :: (tail ++ '=' :: rest) := by
        rw [trimStart, List.dropWhile_append, ← trimStart.eq_1, kept]
        rfl
      have other := isKey.noComment c rfl
      rw [isComment, start]
      simp [other]

theorem entryChars_properties
    : entryChars .properties key value = escapeProperty key ++ '=' :: escapeProperty value ++ ['\n'] :=
  rfl

/-- The line that an entry is written on. -/
def entryLine (key value : List Char) : List Char :=
  key ++ '=' :: escapeProperty value

theorem entryChars_append (isKey : IsKey key)
    : entryChars .properties key value ++ rest = entryLine key value ++ '\n' :: rest := by
  simp only [entryChars_properties, entryLine, escapeProperty_of_not_mem isKey.oneLine,
    List.append_assoc, List.cons_append, List.nil_append]

theorem not_mem_entryLine (isKey : IsKey key) : '\n' ∉ entryLine key value := by
  simp [entryLine, isKey.oneLine, not_mem_escapeProperty]

theorem readLine_entryLine (isKey : IsKey key)
    : readLine (entryLine key value) = .entry key (trim (escapeProperty value)) := by
  rw [entryLine, readLine, isComment_key isKey, splitOnce_append_cons isKey.noEquals]
  simp [isKey.trimmed]

/-- A written entry is read back with its key and its trimmed value, whatever follows it. -/
theorem entries_entryChars (isKey : IsKey key)
    : entries (entryChars .properties key value ++ rest)
      = (String.ofList key, String.ofList (trim (escapeProperty value))) :: entries rest := by
  rw [entryChars_append isKey, entries_append_newline, entries_of_line (not_mem_entryLine isKey),
    entryOf, readLine_entryLine isKey]
  rfl

/-- The line of a written entry is recognized. -/
theorem unrecognized_entryChars (isKey : IsKey key)
    : unrecognized (entryChars .properties key value ++ rest) = unrecognized rest := by
  have recognized : readLine (dropReturn (entryLine key value)) ≠ .unrecognized := by
    rw [readLine_dropReturn, readLine_entryLine isKey]
    exact Line.noConfusion
  rw [entryChars_append isKey, unrecognized, lines_append_newline (not_mem_entryLine isKey),
    List.filter_cons_of_neg (by simpa using recognized), unrecognized]

end AddonPackager.Properties
