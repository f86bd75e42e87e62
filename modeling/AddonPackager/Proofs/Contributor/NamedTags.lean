import AddonPackager.Contributor.Names
import AddonPackager.Proofs.Text.Searching
import AddonPackager.Proofs.Text.Splitting
import Mathlib.Data.Option.Basic

/-! The tags that names are harvested from. The search passes a tag where its name is followed by no
word character. Names of elements can go on behind a dash or a colon, so among these are the tags of
elements with longer names.
-/

namespace AddonPackager.Contributor

open Text Unicode

variable {text tag inside attributes after before element attributeName : List Char} {c : Char}
  {name : String}

/-- The name of an element or attribute, made of letters. -/
structure IsLetters (name : List Char) : Prop where
  nonempty : name ≠ []
  letters : ∀ c ∈ name, isLetter c = true

theorem isLetters_iff {name : List Char}
    : IsLetters name ↔ name ≠ [] ∧ name.all isLetter = true := by
  rw [List.all_eq_true]
  constructor
  · rintro ⟨nonempty, letters⟩
    exact ⟨nonempty, letters⟩
  · rintro ⟨nonempty, letters⟩
    exact ⟨nonempty, letters⟩

instance {name : List Char} : Decidable (IsLetters name) :=
  decidable_of_iff _ isLetters_iff.symm

theorem isWord_of_isLetter (letter : isLetter c = true) : isWord c = true := by
  rw [isLetter] at letter
  rw [isWord]
  split at letter
  · rename_i ascii
    rw [if_pos ascii, Char.isAlphanum, letter]
    rfl
  · rename_i beyond
    rw [if_neg beyond, isLetter, if_neg beyond, letter]
    rfl

theorem IsLetters.not_mem (letters : IsLetters tag) (other : isLetter c = false) : c ∉ tag := by
  intro member
  rw [letters.letters c member] at other
  cases other

-----------------------------------------------------------------------------------------
-- Tags in a text
-----------------------------------------------------------------------------------------

/-- A tag: the opening bracket, a name, what else is inside, and the closing bracket. -/
def tagText (tag inside : List Char) : List Char :=
  '<' :: tag ++ inside ++ ['>']

/-- No word character stands at the start of what is inside a tag. -/
def EndsWord (inside : List Char) : Prop :=
  ∀ c, inside.head? = some c → isWord c = false

/-- What is inside a tag starts with a blank or a slash, or there is nothing, so that the closing
bracket follows the name.
-/
def EndsName (inside : List Char) : Prop :=
  ∀ c, inside.head? = some c → isBlank c = true ∨ c = '/'

theorem isBoundary_iff (letters : IsLetters tag)
    : isBoundary ('<' :: tag).getLast? (inside ++ '>' :: after).head? = true ↔ EndsWord inside := by
  have last : ('<' :: tag).getLast?.any isWord = true := by
    rw [List.getLast?_cons, List.getLast?_eq_some_getLast letters.nonempty]
    exact isWord_of_isLetter (letters.letters _ (List.getLast_mem _))
  rw [isBoundary, last]
  cases inside with
  | nil => simp [EndsWord, show isWord '>' = false from rfl]
  | cons c inside => simp [EndsWord]

/-- A tag is found at the start of a text exactly if it is written there and no word character
stands behind its name.
-/
theorem tagHere?_eq_some_iff (letters : IsLetters tag)
    : tagHere? tag text = some (attributes, after)
      ↔ ∃ inside,
          attributes = inside ++ ['>']
          ∧ '>' ∉ inside
          ∧ EndsWord inside
          ∧ text = tagText tag inside ++ after := by
  constructor
  · intro found
    obtain ⟨opened, start, found⟩ := Option.bind_eq_some_iff.mp found
    obtain ⟨⟨⟩, boundary, found⟩ := Option.bind_eq_some_iff.mp found
    obtain ⟨⟨inside, after'⟩, closed, same⟩ := Option.bind_eq_some_iff.mp found
    obtain ⟨rfl, rfl⟩ := Prod.mk.inj (Option.some.inj same)
    have split := eq_of_splitOnce closed
    rw [split, Option.guard_eq_some'] at boundary
    refine ⟨inside, rfl, not_mem_of_splitOnce closed, (isBoundary_iff letters).mp boundary, ?_⟩
    rw [stripPrefix?_eq_some_iff.mp start, split]
    simp [tagText]
  · rintro ⟨inside, rfl, free, ends, rfl⟩
    have split : tagText tag inside ++ after = ('<' :: tag) ++ (inside ++ '>' :: after) := by
      simp [tagText]
    have boundary : guard (isBoundary ('<' :: tag).getLast? (inside ++ '>' :: after).head? = true)
        = some () :=
      (Option.guard_eq_some' ()).mpr ((isBoundary_iff letters).mpr ends)
    rw [tagHere?, split]
    exact Option.bind_eq_some_iff.mpr ⟨_, stripPrefix?_append_self,
      Option.bind_eq_some_iff.mpr ⟨(), boundary,
        Option.bind_eq_some_iff.mpr ⟨_, splitOnce_append_cons free, rfl⟩⟩⟩

/-- A tag that has not been closed holds no closing bracket. -/
theorem not_mem_opening (letters : IsLetters tag) (free : '>' ∉ inside)
    : '>' ∉ '<' :: tag ++ inside := by
  have notInTag : '>' ∉ tag := letters.not_mem (by decide)
  simp [notInTag, free]

/-- A tag is opened in a text and not closed again. -/
def IsOpen (tag text : List Char) : Prop :=
  ∃ earlier inner,
    text = earlier ++ '<' :: tag ++ inner
    ∧ EndsWord inner
    ∧ '>' ∉ inner

/-- The tags that the search passes: no word character stands behind the name, and no tag before is
still open, which would reach over this one.
-/
def IsPassed (text tag inside : List Char) : Prop :=
  ∃ before after,
    text = before ++ tagText tag inside ++ after
    ∧ '>' ∉ inside
    ∧ EndsWord inside
    ∧ ¬ IsOpen tag before

/-- What a closing bracket follows does not keep a tag open. -/
theorem isOpen_append_bracket {front : List Char} (letters : IsLetters tag)
    : IsOpen tag (front ++ '>' :: before) ↔ IsOpen tag before := by
  constructor
  · rintro ⟨earlier, inner, same, ends, free⟩
    rw [List.append_assoc] at same
    rcases List.append_eq_append_iff.mp same with ⟨between, rfl, behind⟩ | ⟨between, rfl, behind⟩
    · cases between with
      | nil => cases (List.cons.inj behind).1
      | cons c between =>
          refine ⟨between, inner, ?_, ends, free⟩
          rw [List.append_assoc]
          exact (List.cons.inj behind).2
    · have bracket : '>' ∈ '<' :: tag ++ inner :=
        behind ▸ List.mem_append_right between List.mem_cons_self
      exact absurd bracket (not_mem_opening letters free)
  · rintro ⟨earlier, inner, rfl, ends, free⟩
    exact ⟨front ++ '>' :: earlier, inner, by simp, ends, free⟩

theorem not_isOpen_nil : ¬ IsOpen tag [] := by
  rintro ⟨earlier, inner, same, -, -⟩
  simp at same

theorem endsWord_append_bracket {inner : List Char}
    : EndsWord (inner ++ '<' :: after) ↔ EndsWord inner := by
  cases inner with
  | nil => simp [EndsWord, show isWord '<' = false from rfl]
  | cons c inner => rfl

/-- Behind a tag that is found the search goes on with what follows it. -/
theorem isPassed_tagText_append {inner : List Char} (letters : IsLetters tag) (free : '>' ∉ inner)
    (ends : EndsWord inner)
    : IsPassed (tagText tag inner ++ after) tag inside
      ↔ inside = inner ∨ IsPassed after tag inside := by
  constructor
  · rintro ⟨before, more, same, insideFree, insideEnds, notOpen⟩
    by_cases closed : '>' ∈ before
    · obtain ⟨first, others, rfl, firstFree⟩ := List.eq_append_cons_of_mem closed
      have whole : ('<' :: tag ++ inner) ++ '>' :: after
          = first ++ '>' :: (others ++ tagText tag inside ++ more) := by
        simpa [tagText] using same
      obtain ⟨-, rfl⟩ := append_cons_inj (not_mem_opening letters free) firstFree whole
      rw [isOpen_append_bracket letters] at notOpen
      exact .inr ⟨others, more, rfl, insideFree, insideEnds, notOpen⟩
    · cases before with
      | nil =>
          have whole : inside ++ '>' :: more = inner ++ '>' :: after := by
            simpa [tagText] using same.symm
          exact .inl (append_cons_inj insideFree free whole).1
      | cons first before =>
          -- Both tags end at one bracket, so the earlier one is still open before the later one.
          exfalso
          have whole : (first :: before) ++ '<' :: (tag ++ inside ++ '>' :: more)
              = ('<' :: tag ++ inner) ++ '>' :: after := by
            simpa [tagText] using same.symm
          obtain ⟨between, longer, rest⟩ := exists_between_of_append closed whole
          cases between with
          | nil => cases (List.cons.inj rest).1
          | cons c between =>
              obtain ⟨rfl, -⟩ := List.cons.inj rest
              obtain ⟨rfl, behind⟩ := List.cons.inj longer
              have notInTag : '<' ∉ tag := letters.not_mem (by decide)
              obtain ⟨middle, rfl, rfl⟩ := exists_between_of_append notInTag behind
              refine notOpen ⟨[], middle, rfl, endsWord_append_bracket.mp ends, ?_⟩
              exact fun member => free (List.mem_append_left _ member)
  · rintro (rfl | ⟨before, more, rfl, insideFree, insideEnds, notOpen⟩)
    · exact ⟨[], after, rfl, free, ends, not_isOpen_nil⟩
    · refine ⟨tagText tag inner ++ before, more, by simp, insideFree, insideEnds, ?_⟩
      rw [tagText, List.append_assoc, List.singleton_append, isOpen_append_bracket letters]
      exact notOpen

/-- Where no tag is found the search goes on with the next character. -/
theorem isPassed_cons (letters : IsLetters tag) (absent : tagHere? tag (c :: text) = none)
    : IsPassed (c :: text) tag inside ↔ IsPassed text tag inside := by
  have nowhere (inner more : List Char) (free : '>' ∉ inner) (ends : EndsWord inner)
      : c :: text ≠ tagText tag inner ++ more := by
    intro same
    have found := (tagHere?_eq_some_iff letters).mpr ⟨inner, rfl, free, ends, same⟩
    cases absent.symm.trans found
  constructor
  · rintro ⟨before, more, same, free, ends, notOpen⟩
    cases before with
    | nil => exact absurd same (nowhere inside more free ends)
    | cons first before =>
        obtain ⟨rfl, rfl⟩ := List.cons.inj same
        refine ⟨before, more, rfl, free, ends, ?_⟩
        rintro ⟨earlier, inner, rfl, innerEnds, innerFree⟩
        exact notOpen ⟨c :: earlier, inner, rfl, innerEnds, innerFree⟩
  · rintro ⟨before, more, rfl, free, ends, notOpen⟩
    refine ⟨c :: before, more, rfl, free, ends, ?_⟩
    rintro ⟨earlier, inner, same, innerEnds, innerFree⟩
    cases earlier with
    | nil =>
        refine nowhere (inner ++ ('<' :: tag ++ inside)) more ?_ ?_ ?_
        · rw [List.mem_append, not_or]
          exact ⟨innerFree, not_mem_opening letters free⟩
        · exact endsWord_append_bracket.mpr innerEnds
        · rw [← List.cons_append, ← List.cons_append, same]
          simp [tagText]
    | cons first earlier =>
        obtain ⟨rfl, rfl⟩ := List.cons.inj same
        exact notOpen ⟨earlier, inner, rfl, innerEnds, innerFree⟩

theorem tags_of_some (found : tagHere? tag (c :: text) = some (attributes, after))
    : tags tag (c :: text) = ('<' :: tag ++ attributes) :: tags tag after := by
  rw [tags]
  split
  · rename_i found'
    cases found.symm.trans found'
    rfl
  · rename_i absent
    cases found.symm.trans absent

theorem tags_of_none (absent : tagHere? tag (c :: text) = none)
    : tags tag (c :: text) = tags tag text := by
  rw [tags]
  split
  · rename_i found
    cases found.symm.trans absent
  · rfl

/-- The search passes these tags, and no others, by induction along it. -/
theorem mem_tags_iff (letters : IsLetters tag)
    : element ∈ tags tag text
      ↔ ∃ inside, element = tagText tag inside ∧ IsPassed text tag inside := by
  induction text using tags.induct tag with
  | case1 =>
      have none : tags tag [] = [] := by rw [tags]
      rw [none]
      constructor
      · intro member
        cases member
      · rintro ⟨inside, -, before, after, same, -⟩
        simp [tagText] at same
  | case2 c rest attributes after found _ ih =>
      obtain ⟨inner, rfl, free, ends, split⟩ := (tagHere?_eq_some_iff letters).mp found
      have whole : '<' :: tag ++ (inner ++ ['>']) = tagText tag inner := by
        simp [tagText]
      rw [tags_of_some found, whole, List.mem_cons, ih, split]
      simp only [isPassed_tagText_append letters free ends, and_or_left, exists_or, exists_eq_right]
  | case3 c rest absent ih =>
      rw [tags_of_none absent, ih]
      simp only [isPassed_cons letters absent]

-----------------------------------------------------------------------------------------
-- Harvested names
-----------------------------------------------------------------------------------------

/-- A name is in the list that an attribute of a tag has as its value. -/
def IsListedIn (element attributeName : List Char) (name : String) : Prop :=
  ∃ value, attributeValue? attributeName element = some value ∧ name ∈ namesIn value

/-- A name is listed in a tag of the text whose element has the name of the tag. -/
def ComesFromTag (text tag attributeName : List Char) (name : String) : Prop :=
  ∃ inside,
    '>' ∉ inside
    ∧ EndsName inside
    ∧ tagText tag inside <:+: text
    ∧ IsListedIn (tagText tag inside) attributeName name

/-- The harvested names are those listed in the tags that the search passes. -/
theorem mem_attributeValues_iff (letters : IsLetters tag)
    : name ∈ attributeValues text tag attributeName
      ↔ ∃ inside, IsPassed text tag inside ∧ IsListedIn (tagText tag inside) attributeName name := by
  have listed {element : List Char}
      : name ∈ ((attributeValue? attributeName element).map namesIn).getD []
        ↔ IsListedIn element attributeName name := by
    rw [IsListedIn]
    cases attributeValue? attributeName element <;> simp
  simp only [attributeValues, List.mem_flatMap, mem_tags_iff letters, listed]
  constructor
  · rintro ⟨element, ⟨inside, rfl, passed⟩, inElement⟩
    exact ⟨inside, passed, inElement⟩
  · rintro ⟨inside, passed, inElement⟩
    exact ⟨_, ⟨inside, rfl, passed⟩, inElement⟩

theorem IsPassed.infix (passed : IsPassed text tag inside) : tagText tag inside <:+: text := by
  obtain ⟨before, after, rfl, -⟩ := passed
  exact ⟨before, after, rfl⟩

/-- Wherever the bracket and the tag stand in a text, either a word character follows, which makes a
longer name of them, or the name ends there.
-/
def HasPlainNames (text tag : List Char) : Prop :=
  ∀ rest, '<' :: tag ++ rest <:+ text → ∀ c, rest.head? = some c →
    isWord c = true ∨ isBlank c = true ∨ c = '/' ∨ c = '>'

/-- What follows the bracket and the tag, wherever they stand in a text. -/
def nextChars (text tag : List Char) : List Char :=
  text.tails.filterMap fun tail => (stripPrefix? ('<' :: tag) tail).bind List.head?

theorem mem_nextChars_iff
    : c ∈ nextChars text tag ↔ ∃ rest, '<' :: tag ++ rest <:+ text ∧ rest.head? = some c := by
  simp only [nextChars, List.mem_filterMap, List.mem_tails, Option.bind_eq_some_iff,
    stripPrefix?_eq_some_iff]
  constructor
  · rintro ⟨_, ends, rest, rfl, first⟩
    exact ⟨rest, ends, first⟩
  · rintro ⟨rest, ends, first⟩
    exact ⟨_, ends, rest, rfl, first⟩

theorem hasPlainNames_iff
    : HasPlainNames text tag
      ↔ (nextChars text tag).all (fun c => isWord c || isBlank c || c == '/' || c == '>')
        = true := by
  simp only [List.all_eq_true, mem_nextChars_iff, Bool.or_eq_true, beq_iff_eq, or_assoc]
  constructor
  · rintro plain c ⟨rest, ends, first⟩
    exact plain rest ends c first
  · intro plain rest ends c first
    exact plain c ⟨rest, ends, first⟩

instance : Decidable (HasPlainNames text tag) :=
  decidable_of_iff _ hasPlainNames_iff.symm

/-- In such a text the element of every tag that the search passes has the name of the tag. -/
theorem IsPassed.endsName (plain : HasPlainNames text tag) (passed : IsPassed text tag inside)
    : EndsName inside := by
  obtain ⟨before, after, rfl, free, ends, -⟩ := passed
  intro c first
  have tail : '<' :: tag ++ (inside ++ '>' :: after) <:+ before ++ tagText tag inside ++ after :=
    ⟨before, by simp [tagText]⟩
  have notWord := ends c first
  have notBracket : c ≠ '>' := by
    rintro rfl
    exact free (List.mem_of_head? first)
  have follows := plain _ tail c (by rw [List.head?_append, first]; rfl)
  simpa [notWord, notBracket] using follows

/-- The harvested names are those listed in the tags that the search passes. All of them come from
tags of elements with the name asked for exactly if those do that are listed in a tag whose element
has a longer name; in particular if nothing but word characters makes longer names of it.
-/
theorem forall_comesFromTag_iff (letters : IsLetters tag)
    : (∀ name, name ∈ attributeValues text tag attributeName
          ↔ ∃ inside,
              IsPassed text tag inside ∧ IsListedIn (tagText tag inside) attributeName name)
      ∧ ((∀ name ∈ attributeValues text tag attributeName,
            ComesFromTag text tag attributeName name)
          ↔ ∀ inside, IsPassed text tag inside → ¬ EndsName inside →
              ∀ name, IsListedIn (tagText tag inside) attributeName name →
                ComesFromTag text tag attributeName name)
      ∧ (HasPlainNames text tag →
          ∀ name ∈ attributeValues text tag attributeName,
            ComesFromTag text tag attributeName name) := by
  have proper {inside : List Char} {name : String} (passed : IsPassed text tag inside)
      (ends : EndsName inside) (listed : IsListedIn (tagText tag inside) attributeName name)
      : ComesFromTag text tag attributeName name := by
    have inText := passed.infix
    obtain ⟨_, _, _, free, _⟩ := passed
    exact ⟨inside, free, ends, inText, listed⟩
  refine ⟨fun name => mem_attributeValues_iff letters, ⟨?_, ?_⟩, ?_⟩
  · intro all inside passed _ name listed
    exact all name ((mem_attributeValues_iff letters).mpr ⟨inside, passed, listed⟩)
  · intro longer name member
    obtain ⟨inside, passed, listed⟩ := (mem_attributeValues_iff letters).mp member
    by_cases ends : EndsName inside
    · exact proper passed ends listed
    · exact longer inside passed ends name listed
  · intro plain name member
    obtain ⟨inside, passed, listed⟩ := (mem_attributeValues_iff letters).mp member
    exact proper passed (passed.endsName plain) listed

/-- A list of locales, whose element has a longer name than those of the locales. -/
def localeList : List Char :=
  "<locales><locale code='de' translators=\"zoe, Bert\"/><locale/></locales>".toList

/-- A longer name that only word characters make is told apart. -/
theorem forall_comesFromTag_localeList
    : IsLetters "locale".toList
      ∧ attributeValues localeList "locale".toList "translators".toList = ["zoe", "Bert"]
      ∧ ∀ name ∈ ["zoe", "Bert"],
          ComesFromTag localeList "locale".toList "translators".toList name := by
  have letters : IsLetters "locale".toList := by decide +kernel
  have harvested : attributeValues localeList "locale".toList "translators".toList
      = ["zoe", "Bert"] := by
    decide +kernel
  obtain ⟨-, -, fromTags⟩ :=
    @forall_comesFromTag_iff localeList "locale".toList "translators".toList letters
  exact ⟨letters, harvested, harvested ▸ fromTags (by decide +kernel)⟩

/-- An element whose name goes on behind a dash. -/
def localeGroup : List Char :=
  "<locale-group translators='zoe'/>".toList

/-- The name is harvested from the element with the longer name. -/
theorem not_forall_comesFromTag
    : IsLetters "locale".toList
      ∧ IsLetters "translators".toList
      ∧ "zoe" ∈ attributeValues localeGroup "locale".toList "translators".toList
      ∧ ¬ ComesFromTag localeGroup "locale".toList "translators".toList "zoe" := by
  refine ⟨by decide +kernel, by decide +kernel, by decide +kernel, ?_⟩
  rintro ⟨inside, -, ends, ⟨before, after, split⟩, -⟩
  have tail : '<' :: "locale".toList ++ (inside ++ '>' :: after) <:+ localeGroup :=
    ⟨before, by rw [← split]; simp [tagText]⟩
  have dash : nextChars localeGroup "locale".toList = ['-'] := by
    decide +kernel
  have follows (c : Char) (first : (inside ++ '>' :: after).head? = some c) : c = '-' := by
    have next := mem_nextChars_iff.mpr ⟨_, tail, first⟩
    rwa [dash, List.mem_singleton] at next
  cases inside with
  | nil => exact absurd (follows '>' rfl) (by decide)
  | cons c inside =>
      obtain rfl := follows c rfl
      exact absurd (ends '-' rfl) (by decide)

end AddonPackager.Contributor
