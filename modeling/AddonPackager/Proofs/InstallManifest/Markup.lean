import AddonPackager.InstallManifest.Basic
import AddonPackager.Proofs.FileTree.Lookup
import AddonPackager.Proofs.Text.Splitting
import Mathlib.Data.List.Forall2

/-! The markup of the install manifest depends on what there is to show, not on what it says. A value
stands between two tags and brings no angle bracket, so it neither opens nor closes a tag, and two
manifests that show equally many values have the same tags.
-/

namespace AddonPackager

-----------------------------------------------------------------------------------------
-- Tags
-----------------------------------------------------------------------------------------

namespace Text

variable {scan : Scan} {text text' more more' : List Char}

/-- What has been read of a text: the tags that are closed, and what there is of an open one. -/
structure Scan where
  closed : List (List Char)
  opened : Option (List Char)
  deriving DecidableEq, Repr

namespace Scan

def start : Scan :=
  ⟨[], none⟩

/-- Reads a character. A tag goes from an opening angle bracket to the next closing one. -/
def next (scan : Scan) (c : Char) : Scan :=
  match scan.opened with
  | none => if c = '<' then { scan with opened := some [c] } else scan
  | some tag =>
      if c = '>' then
        ⟨scan.closed ++ [tag ++ [c]], none⟩
      else
        { scan with opened := some (tag ++ [c]) }

def run (scan : Scan) (text : List Char) : Scan :=
  text.foldl next scan

theorem run_append : scan.run (text ++ more) = (scan.run text).run more :=
  List.foldl_append

/-- Behind a closing angle bracket no tag is open. -/
theorem opened_next_close : (scan.next '>').opened = none := by
  obtain ⟨closed, opened⟩ := scan
  cases opened <;> rfl

/-- Outside of tags, a text without opening angle brackets is read over, by induction on the text. -/
theorem run_eq_self (outside : scan.opened = none) (plain : '<' ∉ text) : scan.run text = scan := by
  induction text with
  | nil => rfl
  | cons c rest ih =>
      obtain ⟨other, plain⟩ := not_or.mp (mt List.mem_cons.mpr plain)
      have here : scan.next c = scan := by
        rw [next, outside]
        exact if_neg (Ne.symm other)
      rw [run, List.foldl_cons, here]
      exact ih plain

end Scan

/-- The tags of a text, in order. -/
def tags (text : String) : List String :=
  (Scan.start.run text.toList).closed.map String.ofList

/-- A text inside markup has no angle brackets, character by character. -/
theorem not_mem_markup {value : String} {c : Char} (bracket : c = '<' ∨ c = '>')
    : c ∉ (markup value).toList := by
  rw [markup, String.toList_ofList, List.mem_flatMap]
  rintro ⟨shown, -, member⟩
  rw [markupChar] at member
  rcases bracket with rfl | rfl <;> split_ifs at member <;> simp_all [eq_comm]

/-- Two texts have the same tags wherever they stand, and equally many angle brackets. -/
structure SameMarkup (text text' : List Char) : Prop where
  scanned : ∀ scan : Scan, scan.run text = scan.run text'
  opening : text.count '<' = text'.count '<'
  closing : text.count '>' = text'.count '>'

namespace SameMarkup

theorem refl (text : List Char) : SameMarkup text text :=
  ⟨fun _ => rfl, rfl, rfl⟩

theorem append (same : SameMarkup text text') (sameMore : SameMarkup more more')
    : SameMarkup (text ++ more) (text' ++ more') where
  scanned scan := by rw [Scan.run_append, Scan.run_append, same.scanned, sameMore.scanned]
  opening := by rw [List.count_append, List.count_append, same.opening, sameMore.opening]
  closing := by rw [List.count_append, List.count_append, same.closing, sameMore.closing]

/-- Which value a tag is followed by makes no difference. -/
theorem value (value value' : String)
    : SameMarkup ('>' :: (markup value).toList) ('>' :: (markup value').toList) where
  scanned scan := by
    have skipped (shown : String)
        : scan.run ('>' :: (markup shown).toList) = scan.next '>' :=
      Scan.run_eq_self Scan.opened_next_close (not_mem_markup (.inl rfl))
    rw [skipped, skipped]
  opening := by
    simp [List.count_eq_zero.mpr (not_mem_markup (.inl rfl))]
  closing := by
    simp [List.count_eq_zero.mpr (not_mem_markup (.inr rfl))]

/-- A line feed before two texts opens no tag. -/
theorem tags_eq {text text' : String} (same : SameMarkup ('\n' :: text.toList) ('\n' :: text'.toList))
    : tags text = tags text' := by
  have scanned : Scan.start.run text.toList = Scan.start.run text'.toList := same.scanned .start
  rw [tags, tags, scanned]

end SameMarkup

end Text

-----------------------------------------------------------------------------------------
-- Lines
-----------------------------------------------------------------------------------------

namespace InstallManifest

open Text (SameMarkup)

variable {params params' : BuildParams} {locales locales' : Dict LocaleDetails}
  {first first' second second' : List Line} {indent tag value value' : String}

/-- The text of lines, each on a new line. -/
def chars (lines : List Line) : List Char :=
  lines.flatMap fun line => '\n' :: (lineText line).toList

/-- Lines whose texts have the same markup. -/
def Alike (first second : List Line) : Prop :=
  SameMarkup (chars first) (chars second)

namespace Alike

theorem refl (lines : List Line) : Alike lines lines :=
  SameMarkup.refl _

theorem append (same : Alike first second) (sameMore : Alike first' second')
    : Alike (first ++ first') (second ++ second') := by
  rw [Alike, chars, chars, List.flatMap_append, List.flatMap_append]
  exact SameMarkup.append same sameMore

/-- Lines made from two lists are alike if the members are, by induction on the lists. -/
theorem flatMap {α β : Type} {as : List α} {bs : List β} {f : α → List Line} {g : β → List Line}
    (pairs : List.Forall₂ (fun a b => Alike (f a) (g b)) as bs)
    : Alike (as.flatMap f) (bs.flatMap g) := by
  induction pairs with
  | nil => exact refl []
  | cons here _ ih =>
      rw [List.flatMap_cons, List.flatMap_cons]
      exact here.append ih

end Alike

theorem toList_lineText_between {before after : String}
    : (lineText [.fixed before, .value value, .fixed after]).toList
      = before.toList ++ ((Text.markup value).toList ++ after.toList) := by
  simp [lineText, Piece.text]

/-- An element shows its value behind the tag that opens it. -/
theorem toList_lineText_element
    : (lineText (element indent tag value)).toList
      = (indent ++ "<em:" ++ tag).toList
        ++ ('>' :: (Text.markup value).toList ++ ("</em:" ++ tag ++ ">").toList) := by
  have close : ">".toList = ['>'] := by decide +kernel
  rw [element, toList_lineText_between, String.toList_append, close, List.append_assoc]
  rfl

/-- Which value an element shows makes no difference. -/
theorem alike_element : Alike [element indent tag value] [element indent tag value'] := by
  rw [Alike, chars, chars, List.flatMap_singleton, List.flatMap_singleton, toList_lineText_element,
    toList_lineText_element]
  refine SameMarkup.append (.refl ('\n' :: _)) ?_
  exact (SameMarkup.value value value').append (.refl _)

theorem Alike.cons (line : Line) (rest : Alike first second)
    : Alike (line :: first) (line :: second) :=
  (refl [line]).append rest

theorem Alike.cons_element (rest : Alike first second)
    : Alike (element indent tag value :: first) (element indent tag value' :: second) :=
  alike_element.append rest

theorem alike_optionalElement (same : (value != "") = (value' != ""))
    : Alike (optionalElement indent tag value) (optionalElement indent tag value') := by
  have left : value = "" ↔ value' = "" := by
    rw [← not_iff_not, ← ne_eq, ← ne_eq, ← bne_iff_ne, ← bne_iff_ne, same]
  rw [optionalElement, optionalElement]
  by_cases empty : value = ""
  · rw [if_pos empty, if_pos (left.mp empty)]
    exact Alike.refl []
  · rw [if_neg empty, if_neg (mt left.mpr empty)]
    exact alike_element

/-- Lists of equal length are shown alike. -/
theorem alike_map_element {values values' : List String} (same : values.length = values'.length)
    : Alike (values.map (element indent tag)) (values'.map (element indent tag)) := by
  rw [List.map_eq_flatMap, List.map_eq_flatMap]
  refine Alike.flatMap (List.forall₂_iff_zip.mpr ⟨same, ?_⟩)
  intro value value' _
  exact alike_element

-----------------------------------------------------------------------------------------
-- Shapes
-----------------------------------------------------------------------------------------

/-- What there is to show of a locale. -/
structure LocaleShape where
  isDefault : Bool
  hasName : Bool
  hasDescription : Bool
  translators : Nat
  deriving DecidableEq, Repr

/-- What there is to show of an add-on, apart from its values. -/
structure Shape where
  multicompartment : Bool
  hasDescription : Bool
  hasAuthor : Bool
  hasHomepage : Bool
  hasIcon : Bool
  contributors : Nat
  /-- The names of the target applications. -/
  applications : List String
  locales : List LocaleShape
  deriving DecidableEq, Repr

def localeShape (params : BuildParams) (locale : String) (details : LocaleDetails)
    : LocaleShape where
  isDefault := locale == params.config.defaultLocale
  hasName := details.value "name" != ""
  hasDescription := details.value "description" != ""
  translators := details.translators.length

def shape (params : BuildParams) (locales : Dict LocaleDetails) : Shape :=
  let general := fun key => (params.metadata.get? "general" key).getD ""
  let details := fun locale => (locales.get? locale).getD .empty
  { multicompartment := params.config.multicompartment
    hasDescription := (details params.config.defaultLocale).value "description" != ""
    hasAuthor := general "author" != ""
    hasHomepage := general "homepage" != ""
    hasIcon := general "icon" != ""
    contributors := params.contributors.length
    applications := (TargetApplication.ofMetadata params.metadata).map (·.name)
    locales := params.locales.map fun locale => localeShape params locale (details locale) }

/-- Locales of one shape are shown alike. -/
theorem alike_localizedLines {locale locale' : String} {details details' : LocaleDetails}
    (same : localeShape params locale details = localeShape params' locale' details')
    : Alike (localizedLines params.config.defaultLocale locale details)
        (localizedLines params'.config.defaultLocale locale' details') := by
  simp only [localeShape, LocaleShape.mk.injEq] at same
  obtain ⟨sameDefault, sameName, sameDescription, sameTranslators⟩ := same
  have leftOut
      : (locale = params.config.defaultLocale || details.value "name" = "")
        = (locale' = params'.config.defaultLocale || details'.value "name" = "") := by
    simp only [bne, Bool.not_eq_eq_eq_not, Bool.not_not] at sameName
    exact congrArg₂ (· || ·) sameDefault sameName
  rw [localizedLines, localizedLines, leftOut]
  split
  · exact .refl []
  · refine .append (.append (.append ?_ ?_) ?_) (.refl _)
    · exact .cons _ (.cons _ (.cons _ (.cons_element (.cons_element (.refl _)))))
    · exact alike_optionalElement sameDescription
    · exact alike_map_element sameTranslators

/-- Applications of one name are shown alike. -/
theorem alike_applicationLines {application application' : TargetApplication}
    (same : application.name = application'.name)
    : Alike (applicationLines application) (applicationLines application') := by
  rw [applicationLines, applicationLines, same]
  refine .cons _ (.cons _ (.cons _ (.cons _ ?_)))
  exact .cons_element (.cons_element (.cons_element (.refl _)))

/-- Members of equal lists of images correspond to each other. -/
theorem forall₂_of_map_eq {α β γ : Type} {as : List α} {bs : List β} {f : α → γ} {g : β → γ}
    (same : as.map f = bs.map g)
    : List.Forall₂ (fun a b => f a = g b) as bs := by
  rw [← List.forall₂_eq_eq_eq, List.forall₂_map_left_iff, List.forall₂_map_right_iff] at same
  exact same

/-- Manifests of one shape have the same markup. -/
theorem alike_lines (same : shape params locales = shape params' locales')
    : Alike (lines params locales) (lines params' locales') := by
  simp only [shape, Shape.mk.injEq] at same
  obtain ⟨multicompartment, description, author, homepage, icon, contributors, applications,
    localized⟩ := same
  have compartment
      : (if params.config.multicompartment then
            [fixedLine "    <em:multiprocessCompatible>true</em:multiprocessCompatible>"]
          else
            [])
        = if params'.config.multicompartment then
            [fixedLine "    <em:multiprocessCompatible>true</em:multiprocessCompatible>"]
          else
            [] := by
    rw [multicompartment]
  -- From the last lines to the first ones.
  rw [lines, lines]
  refine .append ?_ (.refl footer)
  refine .append ?_ (.flatMap ((forall₂_of_map_eq applications).imp fun _ _ => alike_applicationLines))
  refine .append ?_ (.flatMap ((forall₂_of_map_eq localized).imp fun _ _ => alike_localizedLines))
  refine .append ?_ (alike_optionalElement icon)
  refine .append ?_ (compartment ▸ .refl _)
  refine .append ?_ (.refl _)
  refine .append ?_ (alike_map_element contributors)
  refine .append ?_ (alike_optionalElement homepage)
  refine .append ?_ (alike_optionalElement author)
  refine .append ?_ (alike_optionalElement description)
  refine .append (.refl header) ?_
  exact .cons_element (.cons_element (.cons_element (.refl [])))

theorem toList_render
    : '\n' :: (render params locales).toList = chars (lines params locales) := by
  obtain ⟨first, rest, split⟩ : ∃ first rest, lines params locales = first :: rest := ⟨_, _, rfl⟩
  rw [render, split, List.map_cons, Text.toList_join_cons, Text.toList_newline, List.flatMap_map,
    chars, List.flatMap_cons]
  rfl

/-- Manifests of add-ons that have equally much to show have the same tags and equally many angle
brackets, whatever the values are.
-/
theorem sameTags_create {tree tree' : FileTree}
    (same : shape params (LocaleDetails.readAll tree params)
      = shape params' (LocaleDetails.readAll tree' params'))
    : Text.tags (create tree params) = Text.tags (create tree' params')
      ∧ (create tree params).toList.count '<' = (create tree' params').toList.count '<'
      ∧ (create tree params).toList.count '>' = (create tree' params').toList.count '>' := by
  have alike := alike_lines same
  rw [Alike, ← toList_render, ← toList_render] at alike
  rw [create, create]
  refine ⟨?_, ?_, ?_⟩
  · exact alike.tags_eq
  · simpa only [List.count_cons_of_ne (by decide : '\n' ≠ '<')] using alike.opening
  · simpa only [List.count_cons_of_ne (by decide : '\n' ≠ '>')] using alike.closing

/-- An add-on with one locale, which says some strings about it. -/
def localizedTree (strings : String) : FileTree where
  root :=
    Entries.set "chrome" (.directory
      (Entries.set "locale" (.directory
        (Entries.set "de" (.directory
          (Entries.set "meta.properties" (.file strings.toUTF8) [])) [])) [])) []
  wellFormed :=
    have strings := Entries.wellFormed_nil.set (by decide) (.file _)
    have locale := Entries.wellFormed_nil.set (by decide) strings
    have locales := Entries.wellFormed_nil.set (by decide) locale
    Entries.wellFormed_nil.set (by decide) locales

def authoredParams (author contributor version : String) : BuildParams where
  config := .ofBase ⟨"."⟩
  locales := ["de"]
  version := version
  metadata := ⟨[
    ("general", [("id", ⟨"t@t", ⟨"metadata.gecko"⟩⟩), ("author", ⟨author, ⟨"metadata.gecko"⟩⟩)]),
    ("compat", [("firefox", ⟨version, ⟨"metadata.gecko"⟩⟩)])]⟩
  contributors := [contributor]

def plainParams : BuildParams :=
  authoredParams "Jane" "Joe" "1"

def spelledParams : BuildParams :=
  authoredParams "</em:creator><em:id>" "--><!--" "<em:type>4</em:type>"

def plainTree : FileTree :=
  localizedTree "name=Name"

def spelledTree : FileTree :=
  localizedTree "name=</em:name></RDF>"

/-- Values that spell tags do not bring them. -/
theorem sameTags_create_spelled
    : shape plainParams (LocaleDetails.readAll plainTree plainParams)
        = shape spelledParams (LocaleDetails.readAll spelledTree spelledParams)
      ∧ Text.tags (create plainTree plainParams) = Text.tags (create spelledTree spelledParams) := by
  have plain : shape plainParams (LocaleDetails.readAll plainTree plainParams)
      = ⟨false, false, true, false, false, 1, ["firefox"], [⟨false, true, false, 0⟩]⟩ := by
    decide +kernel
  have spelled : shape spelledParams (LocaleDetails.readAll spelledTree spelledParams)
      = ⟨false, false, true, false, false, 1, ["firefox"], [⟨false, true, false, 0⟩]⟩ := by
    decide +kernel
  have same := plain.trans spelled.symm
  exact ⟨same, (sameTags_create same).1⟩

end InstallManifest

end AddonPackager
