import AddonPackager.Catalog.Dtd
import AddonPackager.Proofs.Text.Replacing

/-! Writing and resolving the predefined entities. A value is written with references for the
characters that markup reserves, and references that it spells itself are kept. Reading the
written value therefore gives the value with its own references to predefined entities resolved,
so exactly the values that spell none of them come back.
-/

namespace AddonPackager.Dtd

open Text CatalogFormat

/-- The entities that need no declaration. -/
inductive Predefined where
  | lt
  | gt
  | quot
  | apos
  | amp
  deriving DecidableEq, Repr

namespace Predefined

def char : Predefined → Char
  | lt => '<'
  | gt => '>'
  | quot => '"'
  | apos => '\''
  | amp => '&'

/-- What follows the ampersand of a reference. -/
def tail : Predefined → List Char
  | lt => ['l', 't', ';']
  | gt => ['g', 't', ';']
  | quot => ['q', 'u', 'o', 't', ';']
  | apos => ['a', 'p', 'o', 's', ';']
  | amp => ['a', 'm', 'p', ';']

def reference (entity : Predefined) : List Char :=
  '&' :: entity.tail

theorem tail_inj {entity other : Predefined} {rest : List Char}
    (starts : entity.tail <+: other.tail ++ rest)
    : entity = other := by
  cases entity <;> cases other <;> simp [tail] at starts ⊢

/-- What follows an ampersand is a reference if it starts like one to a predefined entity. -/
theorem isReferenceTail {entity : Predefined} {rest : List Char} (starts : entity.tail <+: rest)
    : isReferenceTail rest = true := by
  obtain ⟨after, rfl⟩ := starts
  have inside : isEntityChar 't' = true ∧ isEntityChar 'u' = true ∧ isEntityChar 'o' = true
      ∧ isEntityChar 'p' = true ∧ isEntityChar 's' = true ∧ isEntityChar 'm' = true
      ∧ isEntityChar ';' = false := by decide
  cases entity <;> simp [tail, CatalogFormat.isReferenceTail, inside]

end Predefined

-----------------------------------------------------------------------------------------
-- Values as pieces
-----------------------------------------------------------------------------------------

/-- What a value consists of, seen by the writer. -/
inductive Piece where
  /-- A character that is written as it is and is no ampersand. -/
  | plain (c : Char)
  /-- A character that is written as a reference. -/
  | escaped (entity : Predefined)
  /-- A reference to a predefined entity that the value spells itself. -/
  | kept (entity : Predefined)
  /-- The ampersand of any other reference. -/
  | lone
  deriving DecidableEq, Repr

namespace Piece

/-- A piece as it stands in the value. -/
def source : Piece → List Char
  | plain c => [c]
  | escaped entity => [entity.char]
  | kept entity => entity.reference
  | lone => ['&']

/-- A piece while the references to some entities are resolved and the others still stand. -/
def stage (resolved : List Predefined) : Piece → List Char
  | plain c => [c]
  | escaped entity | kept entity =>
      if entity ∈ resolved then [entity.char] else entity.reference
  | lone => ['&']

/-- Whether a piece stands in the value as an ampersand alone. -/
def IsAmpersand (piece : Piece) : Prop :=
  piece = lone ∨ piece = escaped .amp

/-- Plain pieces are no ampersands, and no ampersand that stands alone starts a reference to a
predefined entity.
-/
def Proper : List Piece → Prop
  | [] => True
  | piece :: rest =>
      piece ≠ plain '&'
      ∧ (piece.IsAmpersand → ∀ entity : Predefined, ¬ entity.tail.map plain <+: rest)
      ∧ Proper rest

/-- Characters that no piece but a plain one starts with. -/
def IsOrdinary (c : Char) : Prop :=
  c ≠ '&' ∧ c ≠ '<' ∧ c ≠ '>' ∧ c ≠ '"' ∧ c ≠ '\''

/-- Everything behind the ampersand of a reference is ordinary. -/
theorem isOrdinary_of_mem_tail {entity : Predefined} {c : Char} (member : c ∈ entity.tail)
    : IsOrdinary c := by
  cases entity <;> simp only [Predefined.tail, List.mem_cons, List.not_mem_nil, or_false] at member
    <;> rcases member with rfl | rfl | rfl | rfl | rfl <;> simp [IsOrdinary]

/-- How pieces are written out: plain ones as they are and the others with a start that is not
ordinary.
-/
structure IsRendering (render : Piece → List Char) : Prop where
  plain : ∀ c, render (.plain c) = [c]
  other
    : ∀ piece, (∀ c, piece ≠ .plain c) → ∃ c rest, render piece = c :: rest ∧ ¬ IsOrdinary c

theorem isRendering_source : IsRendering source where
  plain _ := rfl
  other piece notPlain := by
    cases piece with
    | plain c => exact absurd rfl (notPlain c)
    | escaped entity => exact ⟨entity.char, [], rfl, by cases entity <;> simp [IsOrdinary, Predefined.char]⟩
    | kept entity => exact ⟨'&', entity.tail, rfl, by simp [IsOrdinary]⟩
    | lone => exact ⟨'&', [], rfl, by simp [IsOrdinary]⟩

theorem isRendering_stage (resolved : List Predefined) : IsRendering (stage resolved) where
  plain _ := rfl
  other piece notPlain := by
    have either (entity : Predefined) : ∃ c rest,
        (if entity ∈ resolved then [entity.char] else entity.reference) = c :: rest
          ∧ ¬ IsOrdinary c := by
      split
      · exact ⟨entity.char, [], rfl, by cases entity <;> simp [IsOrdinary, Predefined.char]⟩
      · exact ⟨'&', entity.tail, rfl, by simp [IsOrdinary]⟩
    cases piece with
    | plain c => exact absurd rfl (notPlain c)
    | escaped entity => exact either entity
    | kept entity => exact either entity
    | lone => exact ⟨'&', [], rfl, by simp [IsOrdinary]⟩

/-- An ordinary text at the start of written pieces was written by plain pieces, by induction on
the text.
-/
theorem IsRendering.starts_plain {render : Piece → List Char} (rendering : IsRendering render)
    {text : List Char} {pieces : List Piece} (ordinary : ∀ c ∈ text, IsOrdinary c)
    (starts : text <+: pieces.flatMap render)
    : text.map .plain <+: pieces := by
  induction text generalizing pieces with
  | nil => exact List.nil_prefix
  | cons c text ih =>
      cases pieces with
      | nil => simp at starts
      | cons piece pieces =>
          rw [List.flatMap_cons] at starts
          by_cases isPlain : ∃ d, piece = .plain d
          · obtain ⟨d, rfl⟩ := isPlain
            rw [rendering.plain, List.singleton_append, List.cons_prefix_cons] at starts
            rw [List.map_cons, starts.1, List.cons_prefix_cons]
            exact ⟨rfl, ih (fun e member => ordinary e (List.mem_cons_of_mem _ member)) starts.2⟩
          · obtain ⟨d, rest, written, special⟩ :=
              rendering.other piece fun d same => isPlain ⟨d, same⟩
            rw [written, List.cons_append, List.cons_prefix_cons] at starts
            exact absurd (starts.1 ▸ ordinary c (by simp)) special

/-- No ampersand that stands alone is written before what completes a reference. -/
theorem not_starts_tail {render : Piece → List Char} (rendering : IsRendering render)
    {pieces : List Piece} {entity : Predefined}
    (apart : ¬ entity.tail.map plain <+: pieces)
    : ¬ entity.tail <+: pieces.flatMap render :=
  fun starts => apart
    (rendering.starts_plain (fun _ member => isOrdinary_of_mem_tail member) starts)

-----------------------------------------------------------------------------------------
-- Every value consists of pieces
-----------------------------------------------------------------------------------------

theorem escapeEntity_cons (c : Char) (rest : List Char)
    : escapeEntity (c :: rest)
      = (if c = '&' then if CatalogFormat.isReferenceTail rest then ['&'] else "&amp;".toList
          else if c = '<' then "&lt;".toList
          else if c = '>' then "&gt;".toList
          else if c = '"' then "&quot;".toList
          else [c])
        ++ escapeEntity rest :=
  rfl

/-- Ordinary characters are written as they are, by induction on them. -/
theorem escapeEntity_append {text rest : List Char} (ordinary : ∀ c ∈ text, IsOrdinary c)
    : escapeEntity (text ++ rest) = text ++ escapeEntity rest := by
  induction text with
  | nil => rfl
  | cons c text ih =>
      obtain ⟨notAmp, notLt, notGt, notQuot, -⟩ := ordinary c (by simp)
      rw [List.cons_append, escapeEntity_cons, if_neg notAmp, if_neg notLt, if_neg notGt,
        if_neg notQuot, ih fun d member => ordinary d (List.mem_cons_of_mem _ member)]
      rfl

/-- The value, the written value and the read value as texts of pieces. -/
structure Spells (pieces : List Piece) (value : List Char) : Prop where
  proper : Proper pieces
  source : pieces.flatMap source = value
  written : pieces.flatMap (stage []) = escapeEntity value

theorem Spells.ampersand {piece : Piece} {pieces : List Piece} {value written : List Char}
    (spells : Spells pieces value) (isAmpersand : piece.IsAmpersand)
    (apart : ∀ entity : Predefined, ¬ entity.tail <+: value)
    (escaped : escapeEntity ('&' :: value) = written ++ escapeEntity value)
    (stands : piece.stage [] = written)
    : Spells (piece :: pieces) ('&' :: value) where
  proper := by
    refine ⟨?_, ?_, spells.proper⟩
    · rcases isAmpersand with rfl | rfl <;> simp
    · intro _ entity starts
      apply apart entity
      have inside := (List.IsPrefix.flatMap starts Piece.source)
      rw [spells.source, List.flatMap_map] at inside
      simpa [Piece.source, List.flatMap_singleton'] using inside
  source := by
    rw [List.flatMap_cons, spells.source]
    rcases isAmpersand with rfl | rfl <;> rfl
  written := by rw [List.flatMap_cons, spells.written, stands, escaped]

theorem Spells.cons {piece : Piece} {pieces : List Piece} {value : List Char} {c : Char}
    (spells : Spells pieces value) (notAmpersand : ¬ piece.IsAmpersand ∧ piece ≠ plain '&')
    (stands : piece.source = [c])
    (escaped : escapeEntity (c :: value) = piece.stage [] ++ escapeEntity value)
    : Spells (piece :: pieces) (c :: value) where
  proper := ⟨notAmpersand.2, fun isAmpersand => absurd isAmpersand notAmpersand.1, spells.proper⟩
  source := by rw [List.flatMap_cons, spells.source, stands, List.singleton_append]
  written := by rw [List.flatMap_cons, spells.written, escaped]

theorem Spells.kept {pieces : List Piece} {value : List Char} (spells : Spells pieces value)
    (entity : Predefined)
    : Spells (.kept entity :: pieces) (entity.reference ++ value) where
  proper := ⟨by simp, by simp [IsAmpersand], spells.proper⟩
  source := by rw [List.flatMap_cons, spells.source, Piece.source]
  written := by
    have starts : CatalogFormat.isReferenceTail (entity.tail ++ value) = true :=
      Predefined.isReferenceTail (List.prefix_append _ _)
    rw [List.flatMap_cons, spells.written, Predefined.reference, List.cons_append,
      escapeEntity_cons, if_pos rfl, if_pos starts,
      escapeEntity_append fun _ member => isOrdinary_of_mem_tail member]
    simp [stage, Predefined.reference]

/-- Every value consists of pieces, by induction on its length. -/
theorem exists_spells (value : List Char) : ∃ pieces, Spells pieces value := by
  induction length : value.length using Nat.strong_induction_on generalizing value with
  | _ n ih =>
      cases value with
      | nil => exact ⟨[], trivial, rfl, rfl⟩
      | cons c rest =>
          obtain ⟨pieces, spells⟩ := ih rest.length (by simp [← length]) rest rfl
          by_cases isAmp : c = '&'
          · subst isAmp
            by_cases reference : ∃ entity : Predefined, entity.tail <+: rest
            · obtain ⟨entity, after, rfl⟩ := reference
              have shorter : after.length < n := by
                rw [← length, List.length_cons, List.length_append]
                omega
              obtain ⟨pieces, spells⟩ := ih after.length shorter after rfl
              exact ⟨.kept entity :: pieces, spells.kept entity⟩
            · have apart : ∀ entity : Predefined, ¬ entity.tail <+: rest :=
                fun entity starts => reference ⟨entity, starts⟩
              by_cases starts : CatalogFormat.isReferenceTail rest = true
              · refine ⟨.lone :: pieces, spells.ampersand (.inl rfl) apart ?_ rfl⟩
                rw [escapeEntity_cons, if_pos rfl, if_pos starts]
                rfl
              · refine ⟨.escaped .amp :: pieces, spells.ampersand (.inr rfl) apart ?_ rfl⟩
                rw [escapeEntity_cons, if_pos rfl, if_neg starts]
                rfl
          · by_cases isLt : c = '<'
            · subst isLt
              exact ⟨.escaped .lt :: pieces, spells.cons (by simp [IsAmpersand]) rfl rfl⟩
            · by_cases isGt : c = '>'
              · subst isGt
                exact ⟨.escaped .gt :: pieces, spells.cons (by simp [IsAmpersand]) rfl rfl⟩
              · by_cases isQuot : c = '"'
                · subst isQuot
                  exact ⟨.escaped .quot :: pieces, spells.cons (by simp [IsAmpersand]) rfl rfl⟩
                · refine ⟨.plain c :: pieces, spells.cons (by simp [IsAmpersand, isAmp]) rfl ?_⟩
                  rw [escapeEntity_cons, if_neg isAmp, if_neg isLt, if_neg isGt, if_neg isQuot]
                  rfl

-----------------------------------------------------------------------------------------
-- Resolving one entity after the other
-----------------------------------------------------------------------------------------

end Piece

def resolve (entity : Predefined) (text : List Char) : List Char :=
  replaceFrom '&' entity.tail [entity.char] text

/-- Unescaping resolves the references to one entity after the other, ampersands last. -/
theorem unescape_eq (value : List Char)
    : unescape value
      = resolve .amp (resolve .apos (resolve .quot (resolve .gt (resolve .lt value)))) :=
  rfl

namespace Piece

/-- Resolving one entity changes a reference to it and no other one. -/
theorem resolve_entity {resolved : List Predefined} {entity other : Predefined} {text : List Char}
    (noAmp : Predefined.amp ∉ resolved)
    : resolve entity
          ((if other ∈ resolved then [other.char] else other.reference) ++ text)
      = (if other ∈ entity :: resolved then [other.char] else other.reference)
        ++ resolve entity text := by
  by_cases done : other ∈ resolved
  · have notAmp : other.char ≠ '&' := by
      intro same
      cases other <;> first | exact noAmp done | simp [Predefined.char] at same
    rw [if_pos done, if_pos (List.mem_cons_of_mem _ done), List.singleton_append, resolve,
      replaceFrom_cons_of_ne notAmp]
    rfl
  · rw [if_neg done, Predefined.reference, List.cons_append, resolve]
    by_cases same : other = entity
    · subst same
      rw [if_pos (by simp), replaceFrom_of_prefix stripPrefix?_append_self]
      rfl
    · have absent : stripPrefix? entity.tail (other.tail ++ text) = none :=
        stripPrefix?_eq_none_iff.mpr fun starts => same (Predefined.tail_inj starts).symm
      have free : '&' ∉ other.tail := fun member => (isOrdinary_of_mem_tail member).1 rfl
      rw [if_neg (by simp [same, done]), replaceFrom_of_no_prefix absent,
        replaceFrom_append_of_not_mem free]
      rfl

/-- Resolving one entity takes written pieces to their next stage, by induction on the pieces.
Ampersands come last, since a resolved one could start a reference.
-/
theorem resolve_stage {pieces : List Piece} {resolved : List Predefined} (proper : Proper pieces)
    (entity : Predefined) (noAmp : Predefined.amp ∉ resolved)
    : resolve entity (pieces.flatMap (stage resolved))
      = pieces.flatMap (stage (entity :: resolved)) := by
  induction pieces with
  | nil => simp [resolve]
  | cons piece rest ih =>
      obtain ⟨notAmp, apart, restProper⟩ := proper
      rw [List.flatMap_cons, List.flatMap_cons, ← ih restProper]
      cases piece with
      | plain c =>
          have other : c ≠ '&' := fun same => notAmp (same ▸ rfl)
          exact replaceFrom_cons_of_ne other
      | escaped other => exact resolve_entity noAmp
      | kept other => exact resolve_entity noAmp
      | lone =>
          have absent := stripPrefix?_eq_none_iff.mpr
            (not_starts_tail (isRendering_stage resolved) (apart (.inl rfl) entity))
          exact replaceFrom_of_no_prefix absent

/-- A piece as it is read back. -/
def read : Piece → List Char
  | plain c => [c]
  | escaped entity | kept entity => [entity.char]
  | lone => ['&']

/-- Reading a written value resolves all its references to predefined entities. -/
theorem Spells.unescape {pieces : List Piece} {value : List Char} (spells : Spells pieces value)
    : unescape (escapeEntity value) = pieces.flatMap read := by
  have allResolved : stage [.amp, .apos, .quot, .gt, .lt] = read := by
    funext piece
    cases piece with
    | plain c => rfl
    | escaped entity => cases entity <;> rfl
    | kept entity => cases entity <;> rfl
    | lone => rfl
  rw [unescape_eq, ← spells.written, resolve_stage spells.proper .lt (by simp),
    resolve_stage spells.proper .gt (by simp), resolve_stage spells.proper .quot (by simp),
    resolve_stage spells.proper .apos (by simp), resolve_stage spells.proper .amp (by simp),
    allResolved]

-----------------------------------------------------------------------------------------
-- Which values come back
-----------------------------------------------------------------------------------------

theorem length_read_le (pieces : List Piece)
    : (pieces.flatMap read).length ≤ (pieces.flatMap source).length := by
  induction pieces with
  | nil => simp
  | cons piece rest ih =>
      have here : (read piece).length ≤ (source piece).length := by
        cases piece <;> simp [read, source, Predefined.reference]
      simp only [List.flatMap_cons, List.length_append]
      omega

/-- Pieces are read back as they stand exactly if none is a kept reference, by induction on the
pieces.
-/
theorem read_eq_source_iff {pieces : List Piece}
    : pieces.flatMap read = pieces.flatMap source ↔ ∀ entity, kept entity ∉ pieces := by
  induction pieces with
  | nil => simp
  | cons piece rest ih =>
      rw [List.flatMap_cons, List.flatMap_cons]
      cases piece with
      | plain c => simp [read, source, ih]
      | escaped entity => simp [read, source, ih]
      | lone => simp [read, source, ih]
      | kept entity =>
          constructor
          · intro same
            have shorter := length_read_le rest
            have lengths := congrArg List.length same
            have longTail : 1 ≤ entity.tail.length := by cases entity <;> simp [Predefined.tail]
            simp only [read, source, Predefined.reference, List.length_append,
              List.length_cons, List.length_nil] at lengths
            omega
          · intro absent
            exact absurd (by simp) (absent entity)

/-- A value spells a reference to a predefined entity exactly where it has a kept piece, by
induction on the pieces.
-/
theorem exists_kept_of_infix {pieces : List Piece} (proper : Proper pieces) {entity : Predefined}
    (spelled : entity.reference <:+: pieces.flatMap source)
    : ∃ other, kept other ∈ pieces := by
  induction pieces with
  | nil => simp [Predefined.reference] at spelled
  | cons piece rest ih =>
      obtain ⟨notAmp, apart, restProper⟩ := proper
      have later (inside : entity.reference <:+: rest.flatMap source)
          : ∃ other, kept other ∈ piece :: rest :=
        (ih restProper inside).imp fun _ member => List.mem_cons_of_mem _ member
      -- A piece of one character that stands in the value as no ampersand of its own reference.
      have single (c : Char) (stands : piece.source = [c]) (ampersand : c = '&' → piece.IsAmpersand)
          : ∃ other, kept other ∈ piece :: rest := by
        rw [List.flatMap_cons, stands, List.singleton_append, List.infix_cons_iff,
          Predefined.reference, List.cons_prefix_cons] at spelled
        rcases spelled with ⟨same, starts⟩ | inside
        · exact absurd starts
            (not_starts_tail isRendering_source (apart (ampersand same.symm) entity))
        · exact later inside
      cases piece with
      | plain c => exact single c rfl fun same => absurd (same ▸ rfl) notAmp
      | escaped other =>
          refine single other.char rfl ?_
          cases other <;> simp [Predefined.char, IsAmpersand]
      | kept other => exact ⟨other, by simp⟩
      | lone => exact single '&' rfl fun _ => .inl rfl

theorem reference_infix {pieces : List Piece} {entity : Predefined} (member : kept entity ∈ pieces)
    : entity.reference <:+: pieces.flatMap source := by
  obtain ⟨before, after, rfl⟩ := List.append_of_mem member
  exact ⟨before.flatMap source, after.flatMap source, by simp [source]⟩

end Piece

/-- A value spells no reference to a predefined entity. -/
def IsFreeOfPredefined (value : List Char) : Prop :=
  ∀ entity : Predefined, ¬ entity.reference <:+: value

/-- Exactly the values that spell no reference to a predefined entity come back. -/
theorem unescape_escapeEntity_eq_self_iff {value : List Char}
    : unescape (escapeEntity value) = value ↔ IsFreeOfPredefined value := by
  obtain ⟨pieces, spells⟩ := Piece.exists_spells value
  rw [spells.unescape]
  conv_lhs => rw [← spells.source]
  rw [Piece.read_eq_source_iff, ← spells.source]
  constructor
  · intro none entity spelled
    obtain ⟨other, member⟩ := Piece.exists_kept_of_infix spells.proper spelled
    exact none other member
  · intro free entity member
    exact free entity (Piece.reference_infix member)

end AddonPackager.Dtd
