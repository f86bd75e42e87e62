import AddonPackager.Locale.Placeholder
import AddonPackager.Proofs.Text.Searching
import AddonPackager.Proofs.Text.Splitting
import Mathlib.Data.List.Forall2

/-! Expansion line by line. The search for lines with two placeholders runs over the whole text, but
it finds the same as looking at each line on its own: neither a placeholder nor what is found between
two of them reaches beyond a line feed.
-/

namespace AddonPackager.Locale

variable {line rest text before behind : List Char} {locales : List (List Char)}

-----------------------------------------------------------------------------------------
-- Lines with two placeholders
-----------------------------------------------------------------------------------------

/-- The parts of a line around its first two placeholders. -/
def partsOf? (line : List Char) : Option PlaceholderLine :=
  (Text.cut placeholder line).bind fun (before, behind) =>
    (Text.cut placeholder behind).map fun (between, after) => ⟨before, between, after⟩

/-- There is a second placeholder behind the first one if there are two of them anywhere, since
nothing that follows the first of the two is lost by cutting earlier.
-/
theorem partsOf?_eq_none_iff
    : partsOf? line = none
      ↔ ¬ ∃ before between after,
          line = before ++ placeholder ++ between ++ placeholder ++ after := by
  rw [partsOf?]
  constructor
  · rintro single ⟨before, between, after, split⟩
    have whole : line = before ++ placeholder ++ (between ++ placeholder ++ after) := by
      simp [split]
    cases found : Text.cut placeholder line with
    | none => exact Text.cut_eq_none_iff.mp found ⟨before, _, whole.symm⟩
    | some parts =>
        obtain ⟨first, behind⟩ := parts
        have inside : between ++ placeholder ++ after <:+ behind := Text.suffix_of_cut found whole
        obtain ⟨lead, split'⟩ := inside
        have present : placeholder <:+: behind := ⟨lead ++ between, after, by simp [← split']⟩
        rw [found, Option.bind_some, Option.map_eq_none_iff] at single
        exact Text.cut_eq_none_iff.mp single present
  · intro few
    rw [Option.eq_none_iff_forall_ne_some]
    intro parts found
    obtain ⟨⟨before, behind⟩, first, found⟩ := Option.bind_eq_some_iff.mp found
    obtain ⟨⟨between, after⟩, second, -⟩ := Option.map_eq_some_iff.mp found
    refine few ⟨before, between, after, ?_⟩
    rw [Text.eq_of_cut first, Text.eq_of_cut second]
    simp only [List.append_assoc]

/-- The rest of a text from the end of a line on. -/
def EndsLine (rest : List Char) : Prop :=
  rest = [] ∨ ∃ more, rest = '\n' :: more

theorem EndsLine.stripPrefix?_append (ends : EndsLine rest)
    : Text.stripPrefix? placeholder (line ++ rest)
      = (Text.stripPrefix? placeholder line).map (· ++ rest) := by
  cases found : Text.stripPrefix? placeholder line with
  | some behind => exact Text.stripPrefix?_append found
  | none =>
      rcases ends with rfl | ⟨more, rfl⟩
      · rw [List.append_nil, found]
        rfl
      · exact Text.stripPrefix?_append_separator (by decide) found

theorem EndsLine.lineBehind?_append (ends : EndsLine rest) (oneLine : '\n' ∉ line)
    : lineBehind? (line ++ rest)
      = (Text.stripPrefix? placeholder line).map fun after => (after, rest) := by
  rw [lineBehind?, ends.stripPrefix?_append]
  cases found : Text.stripPrefix? placeholder line with
  | none => rfl
  | some after =>
      have inside : ∀ c ∈ after, (c != '\n') = true := by
        intro c member
        rw [bne_iff_ne]
        rintro rfl
        exact oneLine (by simp [Text.stripPrefix?_eq_some_iff.mp found, member])
      have stops : rest.takeWhile (· != '\n') = [] ∧ rest.dropWhile (· != '\n') = rest := by
        rcases ends with rfl | ⟨more, rfl⟩ <;> simp
      simp only [Option.map_some, List.takeWhile_append_of_pos inside,
        List.dropWhile_append_of_pos inside, stops, List.append_nil]

/-- Behind a placeholder, the search for the second one finds the first placeholder of the line, by
induction on the line.
-/
theorem EndsLine.shortest_lineBehind? (ends : EndsLine rest) (oneLine : '\n' ∉ line)
    : shortest lineBehind? (line ++ rest)
      = (Text.cut placeholder line).map fun (between, after) => (between, after, rest) := by
  induction line with
  | nil =>
      rcases ends with rfl | ⟨more, rfl⟩ <;> rfl
  | cons c line ih =>
      rw [List.mem_cons, not_or] at oneLine
      have here : lineBehind? (c :: line ++ rest) = _ :=
        ends.lineBehind?_append (by simpa using oneLine)
      rw [List.cons_append] at here ⊢
      rw [shortest, here, Text.cut]
      cases found : Text.stripPrefix? placeholder (c :: line) with
      | some after => rfl
      | none =>
          simp only [Option.map_none, if_neg (Ne.symm oneLine.1), ih oneLine.2, Option.map_map]
          rfl

theorem EndsLine.pairBehind?_append (ends : EndsLine rest) (oneLine : '\n' ∉ line)
    : pairBehind? (line ++ rest)
      = (Text.stripPrefix? placeholder line).bind fun behind =>
          (Text.cut placeholder behind).map fun (between, after) => (between, after, rest) := by
  rw [pairBehind?, ends.stripPrefix?_append]
  cases found : Text.stripPrefix? placeholder line with
  | none => rfl
  | some behind =>
      refine ends.shortest_lineBehind? fun inside => oneLine ?_
      rw [Text.stripPrefix?_eq_some_iff.mp found]
      exact List.mem_append_right _ inside

/-- At the start of a line, the search finds the parts of that line, by induction on it. Where the
first placeholder has no second one behind it, later starts have none either.
-/
theorem EndsLine.shortest_pairBehind? (ends : EndsLine rest) (oneLine : '\n' ∉ line)
    : shortest pairBehind? (line ++ rest)
      = (partsOf? line).map fun parts => (parts.before, parts.between, parts.after, rest) := by
  induction line with
  | nil =>
      rcases ends with rfl | ⟨more, rfl⟩ <;> rfl
  | cons c line ih =>
      rw [List.mem_cons, not_or] at oneLine
      have here : pairBehind? (c :: line ++ rest) = _ :=
        ends.pairBehind?_append (by simpa using oneLine)
      rw [List.cons_append] at here ⊢
      rw [shortest, here]
      cases found : Text.stripPrefix? placeholder (c :: line) with
      | none =>
          have cutLater : Text.cut placeholder (c :: line)
              = (Text.cut placeholder line).map fun (before, after) => (c :: before, after) := by
            rw [Text.cut, found]
          have longer : partsOf? (c :: line)
              = (partsOf? line).map fun parts => { parts with before := c :: parts.before } := by
            rw [partsOf?, partsOf?, cutLater, Option.bind_map, Option.map_bind]
            simp only [Function.comp_def, Option.map_map]
          simp only [Option.bind_none, if_neg (Ne.symm oneLine.1), ih oneLine.2, longer,
            Option.map_map, Function.comp_def]
      | some behind =>
          have cutHere : Text.cut placeholder (c :: line) = some ([], behind) := by
            rw [Text.cut, found]
          cases second : Text.cut placeholder behind with
          | some parts => simp [partsOf?, cutHere, second]
          | none =>
              have single : partsOf? (c :: line) = none := by
                simp [partsOf?, cutHere, second]
              have later : partsOf? line = none := by
                rw [partsOf?_eq_none_iff] at single ⊢
                rintro ⟨before, between, after, split⟩
                exact single ⟨c :: before, between, after, by simp [split]⟩
              simp [second, single, later, ih oneLine.2]

theorem EndsLine.placeholderLine?_append (ends : EndsLine rest) (oneLine : '\n' ∉ line)
    : placeholderLine? (line ++ rest) = (partsOf? line).map fun parts => (parts, rest) := by
  rw [placeholderLine?, ends.shortest_pairBehind? oneLine, Option.map_map]
  rfl

-----------------------------------------------------------------------------------------
-- The search along a text
-----------------------------------------------------------------------------------------

theorem expandFrom_nil {atStart : Bool} : expandFrom locales atStart [] = [] := by
  rw [expandFrom]
  cases atStart <;> rfl

theorem expandFrom_of_line {parts : PlaceholderLine}
    (found : placeholderLine? text = some (parts, rest))
    : expandFrom locales true text = parts.copies locales ++ expandFrom locales false rest := by
  rw [expandFrom]
  split
  · rename_i parts' rest' found'
    rw [if_pos rfl, found] at found'
    cases found'
    rfl
  · rename_i found'
    rw [if_pos rfl, found] at found'
    cases found'

theorem expandFrom_cons_of_none {c : Char} (none : placeholderLine? (c :: rest) = none)
    : expandFrom locales true (c :: rest) = c :: expandFrom locales (c == '\n') rest := by
  rw [expandFrom]
  split
  · rename_i found
    rw [if_pos rfl, none] at found
    cases found
  · rfl

theorem expandFrom_false_cons {c : Char}
    : expandFrom locales false (c :: rest) = c :: expandFrom locales (c == '\n') rest := by
  rw [expandFrom]
  rfl

/-- Inside a line nothing is searched for, by induction on the line. -/
theorem expandFrom_false_append (oneLine : '\n' ∉ line)
    : expandFrom locales false (line ++ rest) = line ++ expandFrom locales false rest := by
  induction line with
  | nil => rfl
  | cons c line ih =>
      rw [List.mem_cons, not_or] at oneLine
      have inside : (c == '\n') = false := beq_false_of_ne (Ne.symm oneLine.1)
      rw [List.cons_append, expandFrom_false_cons, inside, ih oneLine.2, List.cons_append]

/-- What a line becomes on its own. -/
def expandLine (locales : List (List Char)) (line : List Char) : List Char :=
  match partsOf? line with
  | some parts => parts.copies locales
  | none => line

/-- From the start of a line, the search expands it and goes on at its end. -/
theorem EndsLine.expandFrom_append (ends : EndsLine rest) (oneLine : '\n' ∉ line)
    : expandFrom locales true (line ++ rest)
      = expandLine locales line ++ expandFrom locales false rest := by
  have found := ends.placeholderLine?_append oneLine
  cases parts : partsOf? line with
  | some parts' =>
      have copied : expandLine locales line = parts'.copies locales := by
        rw [expandLine, parts]
      rw [parts, Option.map_some] at found
      rw [copied, expandFrom_of_line found]
  | none =>
      have kept : expandLine locales line = line := by
        rw [expandLine, parts]
      rw [parts, Option.map_none] at found
      rw [kept]
      cases line with
      | nil =>
          rw [List.nil_append] at found ⊢
          cases rest with
          | nil => rw [expandFrom_nil, expandFrom_nil, List.append_nil]
          | cons c rest =>
              rw [expandFrom_cons_of_none found, expandFrom_false_cons, List.nil_append]
      | cons c line =>
          rw [List.mem_cons, not_or] at oneLine
          have inside : (c == '\n') = false := beq_false_of_ne (Ne.symm oneLine.1)
          rw [List.cons_append] at found ⊢
          rw [expandFrom_cons_of_none found, inside, expandFrom_false_append oneLine.2,
            List.cons_append]

/-- A text of lines becomes the text of the expanded lines, by induction on the lines. -/
theorem expandFrom_intercalate {pieces : List (List Char)} (nonempty : pieces ≠ [])
    (oneLine : ∀ piece ∈ pieces, '\n' ∉ piece)
    : expandFrom locales true (['\n'].intercalate pieces)
      = ['\n'].intercalate (pieces.map (expandLine locales)) := by
  induction pieces with
  | nil => exact absurd rfl nonempty
  | cons line others ih =>
      obtain ⟨lineOne, othersOne⟩ := List.forall_mem_cons.mp oneLine
      cases others with
      | nil =>
          have last : EndsLine [] := .inl rfl
          have expanded : expandFrom locales true (line ++ []) = _ := last.expandFrom_append lineOne
          rw [expandFrom_nil] at expanded
          simpa using expanded
      | cons next others =>
          have ends : EndsLine ('\n' :: ['\n'].intercalate (next :: others)) := .inr ⟨_, rfl⟩
          have start : ('\n' == '\n') = true := rfl
          rw [List.map_cons, List.map_cons, List.intercalate_cons_cons, List.intercalate_cons_cons,
            ← List.map_cons, ← ih (List.cons_ne_nil _ _) othersOne, List.append_assoc,
            List.append_assoc, List.singleton_append, List.singleton_append,
            ends.expandFrom_append lineOne, expandFrom_false_cons, start]

/-- The expansion of a text is that of its lines. -/
theorem expandFrom_eq_intercalate (text : List Char)
    : expandFrom locales true text
      = ['\n'].intercalate ((text.splitOn '\n').map (expandLine locales)) := by
  rw [← expandFrom_intercalate (List.splitOn_ne_nil _ _) fun _ => Text.not_mem_of_mem_splitOn,
    List.intercalate_splitOn]

/-- A line feed separates what is expanded before and after it. -/
theorem expandFrom_append_newline
    : expandFrom locales true (before ++ '\n' :: behind)
      = expandFrom locales true before ++ '\n' :: expandFrom locales true behind := by
  rw [expandFrom_eq_intercalate, expandFrom_eq_intercalate, expandFrom_eq_intercalate,
    List.splitOn_append_cons_self, List.map_append, Text.intercalate_append (by simp) (by simp),
    List.append_assoc, List.singleton_append]

-----------------------------------------------------------------------------------------
-- Expansion of lines
-----------------------------------------------------------------------------------------

/-- What a line is replaced with. A line with two placeholders that do not overlap is copied for each
locale, with the locale in place of its first two placeholders; any other line is kept.
-/
inductive Expands (locales : List String) (line : String) : String → Prop
  | copied {before behind between after : List Char}
      (first : Text.IsCut placeholder line.toList before behind)
      (second : Text.IsCut placeholder behind between after)
      : Expands locales line
          (Text.join "\n" (locales.map fun locale =>
            .ofList before ++ locale ++ .ofList between ++ locale ++ .ofList after))
  | kept
      (few
        : ¬ ∃ before between after,
            line.toList = before ++ placeholder ++ between ++ placeholder ++ after)
      : Expands locales line line

theorem expands_expandLine {locales : List String} (line : String)
    : Expands locales line (.ofList (expandLine (locales.map String.toList) line.toList)) := by
  rw [expandLine]
  cases parts : partsOf? line.toList with
  | none =>
      simp only [String.ofList_toList]
      exact .kept (partsOf?_eq_none_iff.mp parts)
  | some found =>
      obtain ⟨⟨before, behind⟩, first, rest⟩ := Option.bind_eq_some_iff.mp parts
      obtain ⟨⟨between, after⟩, second, same⟩ := Option.map_eq_some_iff.mp rest
      cases same
      have copies : String.ofList (PlaceholderLine.copies ⟨before, between, after⟩
            (locales.map String.toList))
          = Text.join "\n" (locales.map fun locale =>
              .ofList before ++ locale ++ .ofList between ++ locale ++ .ofList after) := by
        rw [PlaceholderLine.copies, Text.join, Text.toList_newline]
        simp [Function.comp_def]
      simp only [copies]
      exact .copied (Text.cut_eq_some_iff.mp first) (Text.cut_eq_some_iff.mp second)

/-- Expansion is line-wise. The text is split at its line feeds, every line is replaced on its own,
and the results are joined again; so texts on both sides of a line feed are expanded apart, and a
line feed at the end of a text stays there.
-/
theorem exists_expands_of_expand (locales : List String) (text : String)
    : (∃ expanded,
          List.Forall₂ (Expands locales) (Text.pieces '\n' text) expanded
          ∧ expand locales text = Text.join "\n" expanded)
      ∧ ∀ more,
          expand locales (text ++ "\n" ++ more)
            = expand locales text ++ "\n" ++ expand locales more := by
  constructor
  · refine ⟨(Text.pieces '\n' text).map fun line =>
      .ofList (expandLine (locales.map String.toList) line.toList), ?_, ?_⟩
    · rw [List.forall₂_map_right_iff, List.forall₂_same]
      intro line _
      exact expands_expandLine line
    · rw [expand, expandFrom_eq_intercalate, Text.join, Text.toList_newline, Text.pieces]
      simp [Function.comp_def]
  · intro more
    rw [← String.toList_inj, expand, expand, expand]
    simp only [String.toList_append, String.toList_ofList, Text.toList_newline, List.append_assoc,
      List.singleton_append]
    exact expandFrom_append_newline

end AddonPackager.Locale
