import AddonPackager.Catalog.Dtd
import AddonPackager.Proofs.Text.Searching
import AddonPackager.Proofs.Text.Splitting
import AddonPackager.Proofs.Text.Trimming
import AddonPackager.Proofs.Unicode.Blank

/-! Reading DTD text. The grammar of declarations stands beside the reader: the reader accepts
exactly the texts made of declarations and blanks, and takes comments out piece by piece.
-/

namespace AddonPackager.Dtd

open Text Unicode CatalogFormat

variable {text rest more value name : List Char} {declaration : Declaration}
  {declarations others : List Declaration}

-----------------------------------------------------------------------------------------
-- The parts of a declaration
-----------------------------------------------------------------------------------------

/-- Skipping takes blanks off the start of a text, of which there is at least one. -/
theorem exists_blanks_of_skipBlanks? (skipped : skipBlanks? text = some rest)
    : ∃ blanks, blanks ≠ [] ∧ IsBlank blanks ∧ text = blanks ++ rest := by
  cases text with
  | nil => simp [skipBlanks?] at skipped
  | cons c tail =>
      rw [skipBlanks?] at skipped
      split at skipped
      · rename_i blank
        cases skipped
        obtain ⟨blanks, tailBlank, split⟩ := exists_append_trimStart tail
        refine ⟨c :: blanks, by simp, List.forall_mem_cons.mpr ⟨blank, tailBlank⟩, ?_⟩
        rw [List.cons_append, ← split]
      · simp at skipped

/-- Skipping ends at the first character that is no blank. -/
theorem skipBlanks?_append {blanks : List Char} {c : Char} (nonempty : blanks ≠ [])
    (blank : IsBlank blanks) (solid : isBlank c = false)
    : skipBlanks? (blanks ++ c :: rest) = some (c :: rest) := by
  cases blanks with
  | nil => simp at nonempty
  | cons first tail =>
      have tailBlank : IsBlank tail := fun d member => blank d (List.mem_cons_of_mem _ member)
      rw [List.cons_append, skipBlanks?, if_pos (blank first (by simp)),
        trimStart_append tailBlank, trimStart, List.dropWhile_cons_of_neg (by simp [solid])]

def IsQuote (c : Char) : Prop :=
  c = '"' ∨ c = '\''

/-- A quoted value stands between two quotes of one kind and holds none of that kind. -/
theorem quotedValue?_eq_some_iff
    : quotedValue? text = some (value, rest)
      ↔ ∃ quote, IsQuote quote ∧ quote ∉ value ∧ text = quote :: value ++ quote :: rest := by
  constructor
  · intro found
    unfold quotedValue? at found
    split at found
    · exact ⟨'"', .inl rfl, not_mem_of_splitOnce found, by simp [eq_of_splitOnce found]⟩
    · exact ⟨'\'', .inr rfl, not_mem_of_splitOnce found, by simp [eq_of_splitOnce found]⟩
    · simp at found
  · rintro ⟨quote, rfl | rfl, free, rfl⟩
    · exact splitOnce_append_cons free
    · exact splitOnce_append_cons free

/-- How a declaration is written: the keyword, blanks, the name, blanks, the value between quotes
of one kind, perhaps blanks, and the closing bracket.
-/
structure Declaration.IsWritten (declaration : Declaration) (text : List Char) : Prop where
  named : declaration.name ≠ [] ∧ ∀ c ∈ declaration.name, isEntityChar c = true
  parts
    : ∃ blanks between quote ending,
        blanks ≠ [] ∧ IsBlank blanks ∧ between ≠ [] ∧ IsBlank between
        ∧ IsQuote quote ∧ quote ∉ declaration.value ∧ IsBlank ending
        ∧ text = "<!ENTITY".toList ++ (blanks ++ (declaration.name ++ (between
            ++ (quote :: declaration.value ++ quote :: (ending ++ ['>'])))))

/-- A run of name characters ends where blanks begin. -/
theorem takeWhile_name {between : List Char} (named : ∀ c ∈ name, isEntityChar c = true)
    (nonempty : between ≠ []) (blank : IsBlank between)
    : (name ++ (between ++ rest)).takeWhile isEntityChar = name
      ∧ (name ++ (between ++ rest)).dropWhile isEntityChar = between ++ rest := by
  rw [List.takeWhile_append_of_pos named, List.dropWhile_append_of_pos named]
  cases between with
  | nil => simp at nonempty
  | cons c tail =>
      have outside : isEntityChar c = false := by
        cases member : isEntityChar c with
        | false => rfl
        | true => exact absurd (blank c (by simp)) (by simp [isBlank_of_isEntityChar member])
      simp [outside]

/-- What the reader finds is written as a declaration. -/
theorem exists_isWritten_of_declaration? (found : declaration? text = some (declaration, rest))
    : ∃ written, declaration.IsWritten written ∧ text = written ++ rest := by
  obtain ⟨afterKeyword, keyword, found⟩ := Option.bind_eq_some_iff.mp found
  obtain ⟨atName, toName, found⟩ := Option.bind_eq_some_iff.mp found
  obtain ⟨⟨⟩, nonempty, found⟩ := Option.bind_eq_some_iff.mp found
  obtain ⟨atValue, toValue, found⟩ := Option.bind_eq_some_iff.mp found
  obtain ⟨⟨value, afterValue⟩, quoted, closed⟩ := Option.bind_eq_some_iff.mp found
  dsimp only at closed
  obtain ⟨blanks, blanksNonempty, blanksBlank, rfl⟩ := exists_blanks_of_skipBlanks? toName
  obtain ⟨between, betweenNonempty, betweenBlank, split⟩ := exists_blanks_of_skipBlanks? toValue
  obtain ⟨quote, isQuote, free, rfl⟩ := quotedValue?_eq_some_iff.mp quoted
  split at closed
  · rename_i rest' bracket
    cases closed
    have named : atName.takeWhile isEntityChar ≠ [] := by
      intro empty
      rw [empty] at nonempty
      cases nonempty
    refine ⟨_, ⟨⟨named, fun c => List.all_eq_true.mp List.all_takeWhile c⟩, blanks, between,
      quote, afterValue.takeWhile isBlank, blanksNonempty, blanksBlank, betweenNonempty,
      betweenBlank, isQuote, free, List.all_eq_true.mp List.all_takeWhile, rfl⟩, ?_⟩
    have ending : afterValue = afterValue.takeWhile isBlank ++ '>' :: rest := by
      rw [← bracket, trimStart, List.takeWhile_append_dropWhile]
    have whole : atName = atName.takeWhile isEntityChar
        ++ (between ++ (quote :: value ++ quote :: afterValue)) := by
      rw [← split, List.takeWhile_append_dropWhile]
    rw [stripPrefix?_eq_some_iff.mp keyword]
    conv_lhs => rw [whole, ending]
    simp
  · simp at closed

/-- A written declaration is found, whatever follows it. -/
theorem declaration?_append_of_isWritten {written : List Char}
    (isWritten : declaration.IsWritten written)
    : declaration? (written ++ rest) = some (declaration, rest) := by
  obtain ⟨⟨nonempty, named⟩, blanks, between, quote, ending, blanksNonempty, blanksBlank,
    betweenNonempty, betweenBlank, isQuote, free, endingBlank, rfl⟩ := isWritten
  obtain ⟨name, value⟩ := declaration
  let afterValue := ending ++ '>' :: rest
  let atValue := quote :: value ++ quote :: afterValue
  let atName := name ++ (between ++ atValue)
  have shape : "<!ENTITY".toList ++ (blanks ++ (name ++ (between
      ++ (quote :: value ++ quote :: (ending ++ ['>']))))) ++ rest
      = "<!ENTITY".toList ++ (blanks ++ atName) := by
    simp [atName, atValue, afterValue]
  obtain ⟨taken, dropped⟩ : atName.takeWhile isEntityChar = name
      ∧ atName.dropWhile isEntityChar = between ++ atValue :=
    takeWhile_name named betweenNonempty betweenBlank
  obtain ⟨first, tail, rfl⟩ := List.exists_cons_of_ne_nil nonempty
  have toName : skipBlanks? (blanks ++ atName) = some atName :=
    skipBlanks?_append blanksNonempty blanksBlank
      (isBlank_of_isEntityChar (named first List.mem_cons_self))
  have isNamed : guard (!(atName.takeWhile isEntityChar).isEmpty) = some () := by
    rw [taken]
    rfl
  have toValue : skipBlanks? (atName.dropWhile isEntityChar) = some atValue := by
    rw [dropped]
    exact skipBlanks?_append betweenNonempty betweenBlank
      (by rcases isQuote with rfl | rfl <;> decide)
  have quoted : quotedValue? atValue = some (value, afterValue) :=
    quotedValue?_eq_some_iff.mpr ⟨quote, isQuote, free, rfl⟩
  have bracket : trimStart afterValue = '>' :: rest := by
    rw [trimStart_append endingBlank]
    exact List.dropWhile_cons_of_neg (by decide)
  rw [shape]
  unfold declaration?
  refine Option.bind_eq_some_iff.mpr ⟨_, stripPrefix?_append_self, ?_⟩
  refine Option.bind_eq_some_iff.mpr ⟨atName, toName, ?_⟩
  refine Option.bind_eq_some_iff.mpr ⟨(), isNamed, ?_⟩
  refine Option.bind_eq_some_iff.mpr ⟨atValue, toValue, ?_⟩
  refine Option.bind_eq_some_iff.mpr ⟨_, quoted, ?_⟩
  dsimp only
  rw [bracket, taken]
  rfl

/-- The reader finds a declaration exactly where one is written. -/
theorem declaration?_eq_some_iff
    : declaration? text = some (declaration, rest)
      ↔ ∃ written, declaration.IsWritten written ∧ text = written ++ rest := by
  constructor
  · exact exists_isWritten_of_declaration?
  · rintro ⟨written, isWritten, rfl⟩
    exact declaration?_append_of_isWritten isWritten

-----------------------------------------------------------------------------------------
-- Texts made of declarations and blanks
-----------------------------------------------------------------------------------------

/-- A text that consists of declarations with blanks between them. -/
inductive Declares : List Char → List Declaration → Prop
  | nil : Declares [] []
  | blank {c rest declarations} (isBlank : isBlank c = true) (below : Declares rest declarations)
    : Declares (c :: rest) declarations
  | declaration {declaration written rest declarations}
    (isWritten : declaration.IsWritten written) (below : Declares rest declarations)
    : Declares (written ++ rest) (declaration :: declarations)

/-- Two texts of declarations make one, by induction on the first. -/
theorem Declares.append (first : Declares text declarations) (second : Declares more others)
    : Declares (text ++ more) (declarations ++ others) := by
  induction first with
  | nil => exact second
  | blank isBlank _ ih => exact .blank isBlank ih
  | declaration isWritten _ ih =>
      rw [List.append_assoc, List.cons_append]
      exact .declaration isWritten ih

/-- Every declared name is one that a declaration can have, by induction on the text. -/
theorem Declares.named (declares : Declares text declarations)
    : ∀ declaration ∈ declarations,
        declaration.name ≠ [] ∧ ∀ c ∈ declaration.name, isEntityChar c = true := by
  induction declares with
  | nil => simp
  | blank _ _ ih => exact ih
  | declaration isWritten _ ih =>
      intro declaration member
      rcases List.mem_cons.mp member with same | later
      · exact same ▸ isWritten.named
      · exact ih declaration later

theorem declaration?_of_isBlank {c : Char} (blank : isBlank c = true)
    : declaration? (c :: rest) = none := by
  cases found : declaration? (c :: rest) with
  | none => rfl
  | some result =>
      obtain ⟨written, ⟨_, _, _, _, _, _, _, _, _, _, _, _, rfl⟩, split⟩ :=
        declaration?_eq_some_iff.mp found
      cases split
      exact absurd blank (by decide)

theorem scan_nil {gap : List Char}
    : scan gap [] = if (trim gap.reverse).isEmpty then .ok [] else .error (snippet gap.reverse) := by
  rw [scan]

/-- At a declaration the gap before it is checked. -/
theorem scan_of_declaration? {gap after : List Char} {c : Char}
    (found : declaration? (c :: rest) = some (declaration, after))
    : scan gap (c :: rest)
      = if (trim gap.reverse).isEmpty then (scan [] after).map (declaration :: ·)
        else .error (snippet gap.reverse) := by
  rw [scan]
  split
  · rename_i found'
    rw [found] at found'
    cases found'
    rfl
  · rename_i absent
    simp [found] at absent

/-- Elsewhere a character is added to the gap. -/
theorem scan_of_no_declaration? {gap : List Char} {c : Char}
    (absent : declaration? (c :: rest) = none)
    : scan gap (c :: rest) = scan (c :: gap) rest := by
  rw [scan]
  split
  · rename_i found
    simp [absent] at found
  · rfl

/-- What is read without error consists of declarations after a blank gap, by induction on the
length of the text.
-/
theorem declares_of_scan {gap : List Char} (read : scan gap text = .ok declarations)
    : IsBlank gap.reverse ∧ Declares text declarations := by
  induction length : text.length using Nat.strong_induction_on
    generalizing text gap declarations with
  | _ n ih =>
      cases text with
      | nil =>
          rw [scan_nil] at read
          split at read
          · rename_i blank
            cases read
            exact ⟨isEmpty_trim_iff.mp blank, .nil⟩
          · simp at read
      | cons c rest =>
          cases found : declaration? (c :: rest) with
          | some result =>
              obtain ⟨declaration, after⟩ := result
              rw [scan_of_declaration? found] at read
              split at read
              · rename_i blank
                obtain ⟨written, isWritten, split⟩ := declaration?_eq_some_iff.mp found
                cases inner : scan [] after with
                | error snippet => simp [inner, Except.map] at read
                | ok later =>
                    have shorter := length ▸ length_lt_of_declaration? found
                    simp only [inner, Except.map, Except.ok.injEq] at read
                    rw [← read, split]
                    exact ⟨isEmpty_trim_iff.mp blank,
                      .declaration isWritten (ih _ shorter inner rfl).2⟩
              · simp at read
          | none =>
              rw [scan_of_no_declaration? found] at read
              obtain ⟨blank, declares⟩ := ih rest.length (by simp [← length]) read rfl
              rw [List.reverse_cons] at blank
              exact ⟨fun d member => blank d (List.mem_append_left _ member),
                .blank (blank c (by simp)) declares⟩

/-- A text of declarations is read without error after any blank gap, by induction on the text.
-/
theorem Declares.scan (declares : Declares text declarations) {gap : List Char}
    (blank : IsBlank gap.reverse)
    : Dtd.scan gap text = .ok declarations := by
  induction declares generalizing gap with
  | nil => simp [scan_nil, isEmpty_trim_iff.mpr blank]
  | @blank c rest declarations isBlank _ ih =>
      rw [scan_of_no_declaration? (declaration?_of_isBlank isBlank)]
      apply ih
      intro d member
      rw [List.reverse_cons, List.mem_append, List.mem_singleton] at member
      rcases member with earlier | rfl
      · exact blank d earlier
      · exact isBlank
  | @declaration declaration written rest declarations isWritten _ ih =>
      have found : declaration? (written ++ rest) = some (declaration, rest) :=
        declaration?_eq_some_iff.mpr ⟨written, isWritten, rfl⟩
      obtain ⟨first, tail, split⟩ : ∃ first tail, written ++ rest = first :: tail := by
        obtain ⟨_, _, _, _, _, _, _, _, _, _, _, _, rfl⟩ := isWritten
        exact ⟨_, _, rfl⟩
      rw [split] at found ⊢
      rw [scan_of_declaration? found, if_pos (isEmpty_trim_iff.mpr blank),
        ih (by simp [IsBlank])]
      rfl

/-- The reader accepts exactly the texts made of declarations and blanks. -/
theorem scan_eq_ok_iff : scan [] text = .ok declarations ↔ Declares text declarations :=
  ⟨fun read => (declares_of_scan read).2, fun declares => declares.scan (by simp [IsBlank])⟩

end AddonPackager.Dtd
