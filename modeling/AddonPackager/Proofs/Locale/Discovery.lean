import AddonPackager.Build.Params
import AddonPackager.Proofs.Dict.Lookup
import AddonPackager.Proofs.FileTree.Descending
import AddonPackager.Proofs.FileTree.Lookup
import AddonPackager.Proofs.Locale.CatalogPaths

/-! The locales that a project has. They are the directories with the entries of a locale, listed
in one order; marks of incomplete locales take names out of the list and change nothing else. A
build packages listed locales, or names that it was given and that may be locales.
-/

namespace AddonPackager

namespace Locale

variable {tree : FileTree} {directory : DiskPath} {entries : Entries} {incomplete : Bool}
  {name defaultLocale a b : String}

-----------------------------------------------------------------------------------------
-- Directories of locales
-----------------------------------------------------------------------------------------

/-- A locale of a directory by what the directory holds: a subdirectory with the name of a locale,
which is not empty and, unless incomplete locales count, has no entry that marks it incomplete.
-/
def Holds (entries : Entries) (incomplete : Bool) (name : String) : Prop :=
  isName name = true
    ∧ ∃ inner : Entries,
        entries.get? name = some (.directory inner)
        ∧ inner ≠ []
        ∧ (incomplete = true ∨ Entries.get? incompleteMarker inner = none)

/-- The paths below a directory lead to what it holds. -/
theorem isLocale_iff_holds (listed : tree.list? directory = some entries)
    : isLocale tree directory name incomplete = true ↔ Holds entries incomplete name := by
  have nonempty : directory.text ≠ "" := by
    intro empty
    simp [FileTree.list?, FileTree.lookup?, FileTree.locate, empty] at listed
  rw [isLocale, Bool.and_eq_true, Holds, and_congr_right_iff]
  intro named
  have proper := isEntryName_of_isName named
  have below : tree.lookup? (directory ++ DiskPath.mk name) = entries.get? name := by
    rw [FileTree.lookup?_append_name nonempty proper, listed]
    rfl
  cases inside : tree.list? (directory ++ DiskPath.mk name) with
  | none =>
      simp only [Bool.false_eq_true, false_iff]
      rintro ⟨inner, found, -⟩
      rw [FileTree.list?, below, found] at inside
      cases inside
  | some inner =>
      have found := FileTree.lookup?_of_list? inside
      have belowNonempty : (directory ++ DiskPath.mk name).text ≠ "" :=
        DiskPath.text_append_ne nonempty (DiskPath.isAbsolute_name proper)
      have marker : tree.lookup? (directory ++ DiskPath.mk name ++ DiskPath.mk incompleteMarker)
          = Entries.get? incompleteMarker inner := by
        rw [FileTree.lookup?_append_name belowNonempty (by decide), inside]
        rfl
      rw [FileTree.holds, marker, ← below, found]
      simp

-----------------------------------------------------------------------------------------
-- The order of locales
-----------------------------------------------------------------------------------------

theorem precedes_iff
    : precedes defaultLocale a b = true ↔ a = defaultLocale ∨ b ≠ defaultLocale ∧ a ≤ b := by
  rw [precedes]
  split
  · simp_all
  · split <;> simp_all

theorem precedes_trans (a b c : String) (first : precedes defaultLocale a b = true)
    (second : precedes defaultLocale b c = true)
    : precedes defaultLocale a c = true := by
  rw [precedes_iff] at first second ⊢
  rcases first with isDefault | ⟨other, below⟩
  · exact .inl isDefault
  · obtain ⟨last, above⟩ := second.resolve_left other
    exact .inr ⟨last, String.le_trans below above⟩

theorem precedes_total (a b : String)
    : (precedes defaultLocale a b || precedes defaultLocale b a) = true := by
  rw [Bool.or_eq_true, precedes_iff, precedes_iff]
  by_cases isDefault : a = defaultLocale
  · exact .inl (.inl isDefault)
  by_cases otherDefault : b = defaultLocale
  · exact .inr (.inl otherDefault)
  exact (String.le_total a b).imp (fun below => .inr ⟨otherDefault, below⟩)
    fun above => .inr ⟨isDefault, above⟩

theorem precedes_antisymm (first : precedes defaultLocale a b = true)
    (second : precedes defaultLocale b a = true)
    : a = b := by
  rw [precedes_iff] at first second
  rcases first with isDefault | ⟨other, below⟩
  · rcases second with otherDefault | ⟨other, -⟩
    · exact isDefault.trans otherDefault.symm
    · exact absurd isDefault other
  · exact String.le_antisymm below (second.resolve_left other).2

-----------------------------------------------------------------------------------------
-- Listed locales
-----------------------------------------------------------------------------------------

/-- Locales are in order wherever they come from. -/
theorem pairwise_available
    : (available tree directory incomplete defaultLocale).Pairwise fun a b =>
        precedes defaultLocale a b = true := by
  rw [available]
  split
  · exact List.pairwise_mergeSort precedes_trans precedes_total _
  · exact .nil

theorem available_perm (listed : tree.list? directory = some entries)
    : (available tree directory incomplete defaultLocale).Perm
        ((Assoc.names entries).filter (isLocale tree directory · incomplete)) := by
  rw [available, listed]
  exact List.mergeSort_perm _ _

theorem available_of_list?_eq_none (missing : tree.list? directory = none)
    : available tree directory incomplete defaultLocale = [] := by
  rw [available, missing]

/-- What the list of the locales of a directory is: every locale that the directory holds once,
the default locale first, the others ascending.
-/
structure IsListing (tree : FileTree) (directory : DiskPath) (incomplete : Bool)
    (defaultLocale : String) (found : List String) : Prop where
  distinct : found.Nodup
  locales
    : ∀ name, name ∈ found ↔
        ∃ entries, tree.list? directory = some entries ∧ Holds entries incomplete name
  defaultFirst : defaultLocale ∈ found → found.head? = some defaultLocale
  ascending : (found.filter (· ≠ defaultLocale)).Pairwise (· < ·)

theorem nodup_available : (available tree directory incomplete defaultLocale).Nodup := by
  cases listed : tree.list? directory with
  | none => simp [available_of_list?_eq_none listed]
  | some entries =>
      have ascending := (Entries.wellFormed_iff.mp (FileTree.wellFormed_of_list? listed)).1
      exact (available_perm listed).nodup_iff.mpr (ascending.nodup_names.filter _)

theorem mem_available_iff
    : name ∈ available tree directory incomplete defaultLocale ↔
        ∃ entries, tree.list? directory = some entries ∧ Holds entries incomplete name := by
  cases listed : tree.list? directory with
  | none => simp [available_of_list?_eq_none listed]
  | some entries =>
      rw [(available_perm listed).mem_iff, List.mem_filter, isLocale_iff_holds listed]
      constructor
      · rintro ⟨-, holds⟩
        exact ⟨entries, rfl, holds⟩
      · rintro ⟨entries', same, holds⟩
        cases same
        obtain ⟨-, inner, found, -⟩ := id holds
        exact ⟨Assoc.isSome_get?_iff.mp (Option.isSome_of_eq_some found), holds⟩

theorem isListing_available
    : IsListing tree directory incomplete defaultLocale
        (available tree directory incomplete defaultLocale) := by
  have inOrder : (available tree directory incomplete defaultLocale).Pairwise fun a b =>
      precedes defaultLocale a b = true := pairwise_available
  refine ⟨nodup_available, fun name => mem_available_iff, ?_, ?_⟩
  · intro member
    cases found : available tree directory incomplete defaultLocale with
    | nil => simp [found] at member
    | cons first rest =>
        rw [found] at member inOrder
        rcases List.mem_cons.mp member with isFirst | later
        · rw [isFirst, List.head?_cons]
        · have before := precedes_iff.mp ((List.pairwise_cons.mp inOrder).1 _ later)
          rw [before.resolve_right fun other => other.1 rfl, List.head?_cons]
  · refine ((inOrder.and nodup_available).filter _).imp_of_mem ?_
    rintro a b memberA - ⟨before, notSame⟩
    have other : a ≠ defaultLocale := by simpa using (List.mem_filter.mp memberA).2
    have below := ((precedes_iff.mp before).resolve_left other).2
    exact Std.lt_of_le_of_ne below notSame

/-- Without the incomplete locales, the list is the whole one with these left out: both are in
order, and an order leaves one list of the same names.
-/
theorem available_sublist
    : (available tree directory false defaultLocale).Sublist
        (available tree directory true defaultLocale) := by
  cases listed : tree.list? directory with
  | none => simp [available_of_list?_eq_none listed]
  | some entries =>
      have weaker : ∀ name ∈ Assoc.names entries,
          (isLocale tree directory name false && isLocale tree directory name true)
            = isLocale tree directory name false := by
        intro name _
        rw [Bool.and_eq_left_iff_imp, isLocale_iff_holds listed, isLocale_iff_holds listed]
        rintro ⟨named, inner, found, nonempty, -⟩
        exact ⟨named, inner, found, nonempty, .inl rfl⟩
      have leftOut : ((available tree directory true defaultLocale).filter
          (isLocale tree directory · false)).Perm
            ((Assoc.names entries).filter (isLocale tree directory · false)) := by
        have whole : (available tree directory true defaultLocale).Perm
            ((Assoc.names entries).filter (isLocale tree directory · true)) :=
          available_perm listed
        have filtered := whole.filter (isLocale tree directory · false)
        rwa [List.filter_filter, List.filter_congr weaker] at filtered
      have same : available tree directory false defaultLocale
          = (available tree directory true defaultLocale).filter
            (isLocale tree directory · false) :=
        List.Perm.eq_of_pairwise (fun _ _ _ _ => precedes_antisymm) pairwise_available
          (pairwise_available.filter _) ((available_perm listed).trans leftOut.symm)
      rw [same]
      exact List.filter_sublist

end Locale

-----------------------------------------------------------------------------------------
-- Locales of a build
-----------------------------------------------------------------------------------------

namespace BuildConfig

variable {tree : FileTree} {config : BuildConfig} {locales : List String}

/-- What comes of the selection of a build: the first name that was asked for and may be no locale
is refused, or the locales are those asked for.
-/
inductive Resolves (tree : FileTree) (config : BuildConfig)
    : Except BuildError (List String) → Prop
  | complete {found : List String} (selection : config.locales = .complete)
      (listing
        : Locale.IsListing tree config.localesDirectory false config.defaultLocale found)
      : Resolves tree config (.ok found)
  | all {found : List String} (selection : config.locales = .all)
      (listing
        : Locale.IsListing tree config.localesDirectory true config.defaultLocale found)
      : Resolves tree config (.ok found)
  | explicit {names : List String} (selection : config.locales = .explicit names)
      (named : ∀ name ∈ names, Locale.isName name = true)
      : Resolves tree config (.ok names)
  | refused {before after : List String} {name : String}
      (selection : config.locales = .explicit (before ++ name :: after))
      (named : ∀ earlier ∈ before, Locale.isName earlier = true)
      (invalid : Locale.isName name = false)
      : Resolves tree config (.error (.invalidLocale name))

theorem resolves_resolveLocales (tree : FileTree) (config : BuildConfig)
    : Resolves tree config (config.resolveLocales tree) := by
  simp only [resolveLocales]
  split
  · rename_i selection
    exact .complete selection Locale.isListing_available
  · rename_i selection
    exact .all selection Locale.isListing_available
  · rename_i names selection
    split
    · rename_i name found
      obtain ⟨invalid, before, after, rfl, named⟩ := List.find?_eq_some_iff_append.mp found
      exact .refused selection (by simpa using named) (by simpa using invalid)
    · rename_i allNamed
      exact .explicit selection (by simpa using List.find?_eq_none.mp allNamed)

/-- Every locale that a build packages has a proper name, whichever way it was chosen. -/
theorem isName_of_resolveLocales (resolved : config.resolveLocales tree = .ok locales)
    : ∀ locale ∈ locales, Locale.isName locale = true := by
  have outcome := resolves_resolveLocales tree config
  rw [resolved] at outcome
  intro locale member
  cases outcome with
  | complete _ listing | all _ listing =>
      obtain ⟨entries, -, holds⟩ := (listing.locales locale).mp member
      exact holds.1
  | explicit _ named => exact named locale member

/-- The locales of a directory are listed without duplicates, the default locale first and the
others ascending; without the incomplete ones, the list is a part of the list with them. What a
build packages are the locales that it asks for, and all have proper names, or the first name that
may be no locale is refused.
-/
theorem isListing_and_resolves (tree : FileTree)
    : (∀ directory defaultLocale,
        (∀ incomplete,
          Locale.IsListing tree directory incomplete defaultLocale
            (Locale.available tree directory incomplete defaultLocale))
        ∧ (Locale.available tree directory false defaultLocale).Sublist
            (Locale.available tree directory true defaultLocale))
      ∧ ∀ config : BuildConfig,
          Resolves tree config (config.resolveLocales tree)
          ∧ ∀ locales, config.resolveLocales tree = .ok locales →
              ∀ locale ∈ locales, Locale.isName locale = true :=
  ⟨fun _ _ => ⟨fun _ => Locale.isListing_available, Locale.available_sublist⟩,
    fun config => ⟨resolves_resolveLocales tree config, fun _ => isName_of_resolveLocales⟩⟩

end BuildConfig

end AddonPackager
