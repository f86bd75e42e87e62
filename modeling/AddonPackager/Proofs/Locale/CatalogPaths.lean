import AddonPackager.Catalog.Format
import AddonPackager.FileTree.Basic
import AddonPackager.Locale.Name
import AddonPackager.Locale.Placeholder
import AddonPackager.Proofs.Package.Contents
import AddonPackager.Proofs.Text.Searching
import AddonPackager.Proofs.Text.Splitting

/-! The archive paths of catalogs. A path gives away its locale and its file, a catalog keeps its
format below a locale, and no catalog is a chrome manifest, so catalogs are stored as they are.
-/

namespace AddonPackager

-----------------------------------------------------------------------------------------
-- Locales and their files
-----------------------------------------------------------------------------------------

namespace Locale

variable {locale locale' file file' : String}

/-- Names of locales have no slash, so they stand as one segment of a path. -/
theorem not_mem_of_isName (named : isName locale = true) : '/' ∉ locale.toList := by
  intro member
  rw [isName, Bool.and_eq_true, List.all_eq_true] at named
  have slash : isNameChar '/' = true := named.2 '/' member
  exact absurd slash (by decide)

/-- Names of locales are proper names of directories. -/
theorem isEntryName_of_isName (named : isName locale = true) : isEntryName locale = true := by
  have plain := not_mem_of_isName named
  rw [isName, Bool.and_eq_true] at named
  have notEmpty : locale ≠ "" := by
    rintro rfl
    exact absurd named.1 (by decide)
  have notHere : locale ≠ "." := by
    rintro rfl
    exact absurd named.2 (by decide)
  have notParent : locale ≠ ".." := by
    rintro rfl
    exact absurd named.2 (by decide)
  simp [isEntryName, notEmpty, notHere, notParent, plain]

theorem toList_path
    : (path locale file).toList
      = rootPath.toList ++ '/' :: (locale.toList ++ '/' :: file.toList) := by
  rw [path, String.toList_append, String.toList_append, String.toList_append,
    String.toList_append, List.append_assoc, List.append_assoc, List.append_assoc]
  rfl

theorem path_inj : path locale file = path locale file' ↔ file = file' := by
  constructor
  · intro same
    have chars := congrArg String.toList same
    rw [toList_path, toList_path] at chars
    exact String.toList_inj.mp (by simpa using chars)
  · rintro rfl
    rfl

/-- A locale is what stands before the first slash after the root, so it can be read off a path.
-/
theorem path_eq_iff (named : isName locale = true) (named' : isName locale' = true)
    : path locale file = path locale' file' ↔ locale = locale' ∧ file = file' := by
  constructor
  · intro same
    have chars := congrArg String.toList same
    rw [toList_path, toList_path, List.append_cancel_left_eq, List.cons_inj_right] at chars
    obtain ⟨sameLocale, sameFile⟩ :=
      Text.append_cons_inj (not_mem_of_isName named) (not_mem_of_isName named') chars
    exact ⟨String.toList_inj.mp sameLocale, String.toList_inj.mp sameFile⟩
  · rintro ⟨rfl, rfl⟩
    rfl

theorem endsWith_path {ending : String} (free : '/' ∉ ending.toList)
    : Text.endsWith (path locale file) ending = Text.endsWith file ending := by
  rw [Bool.eq_iff_iff, Text.endsWith, Text.endsWith, List.isSuffixOf_iff_suffix,
    List.isSuffixOf_iff_suffix, toList_path, ← List.reverse_prefix, ← List.reverse_prefix]
  have reversed : (rootPath.toList ++ '/' :: (locale.toList ++ '/' :: file.toList)).reverse
      = file.toList.reverse
        ++ '/' :: (locale.toList.reverse ++ '/' :: rootPath.toList.reverse) := by
    simp
  rw [reversed, Text.prefix_append_separator (by simpa using free)]

theorem ofPath?_path : CatalogFormat.ofPath? (path locale file) = CatalogFormat.ofPath? file := by
  rw [CatalogFormat.ofPath?, CatalogFormat.ofPath?, endsWith_path (by decide),
    endsWith_path (by decide)]

end Locale

theorem CatalogFormat.ofPath?_append_properties {stem : String}
    : ofPath? (stem ++ ".properties") = some .properties := by
  have ends : Text.endsWith (stem ++ ".properties") ".properties" = true :=
    List.isSuffixOf_iff_suffix.mpr ⟨stem.toList, by simp⟩
  rw [ofPath?, if_pos ends]

-----------------------------------------------------------------------------------------
-- Catalogs are no chrome manifests
-----------------------------------------------------------------------------------------

namespace FileKind

/-- The extension is what follows the last dot, unless the name starts with that dot. -/
theorem extension?_append {front extension : List Char} (free : '.' ∉ extension)
    : extension? (front ++ '.' :: extension)
      = if front = [] then none else some extension := by
  have inside : ∀ c ∈ extension.reverse, (c != '.') = true := by
    intro c member
    rw [bne_iff_ne]
    rintro rfl
    exact free (List.mem_reverse.mp member)
  have cut : (front ++ '.' :: extension).reverse.span (· != '.')
      = (extension.reverse, '.' :: front.reverse) := by
    rw [List.reverse_append, List.reverse_cons, List.append_assoc, List.singleton_append,
      List.span_eq_takeWhile_dropWhile, List.takeWhile_append_of_pos inside,
      List.dropWhile_append_of_pos inside]
    simp
  rw [extension?, cut]
  cases front using List.reverseRecOn with
  | nil => rfl
  | append_singleton front c => simp

/-- A path that ends with a dot and an extension has that extension or none. -/
theorem extension?_baseName {path : String} {extension : List Char} (plain : '/' ∉ extension)
    (free : '.' ∉ extension) (ends : ('.' :: extension) <:+ path.toList)
    : extension? (baseName path) = none ∨ extension? (baseName path) = some extension := by
  obtain ⟨front, split⟩ := ends
  have noSlash : '/' ∉ '.' :: extension := by simp [plain]
  obtain ⟨others, last, -, pieces⟩ : ∃ others last,
      front.splitOn '/' = others ++ [last]
      ∧ (front ++ '.' :: extension).splitOn '/' = others ++ [last ++ '.' :: extension] :=
    Text.splitOn_append_of_not_mem noSlash
  have base : baseName path = last ++ '.' :: extension := by
    rw [baseName, ← split, pieces, List.getLastD_concat]
  rw [base, extension?_append free]
  split
  · exact .inl rfl
  · exact .inr rfl

/-- Catalogs are files of no special kind. -/
theorem ofPath_of_catalog {path : String} {format : CatalogFormat}
    (catalog : CatalogFormat.ofPath? path = some format)
    : FileKind.ofPath path = .other := by
  rw [CatalogFormat.ofPath?] at catalog
  split at catalog
  · rename_i ends
    have suffix : ('.' :: "properties".toList) <:+ path.toList :=
      List.isSuffixOf_iff_suffix.mp ends
    rcases extension?_baseName (by decide) (by decide) suffix with none | found
    · rw [FileKind.ofPath, none]
    · rw [FileKind.ofPath, found]
      decide
  · split at catalog
    · rename_i ends
      have suffix : ('.' :: "dtd".toList) <:+ path.toList :=
        List.isSuffixOf_iff_suffix.mp ends
      rcases extension?_baseName (by decide) (by decide) suffix with none | found
      · rw [FileKind.ofPath, none]
      · rw [FileKind.ofPath, found]
        decide
    · simp at catalog

/-- A catalog of a locale is no chrome manifest. -/
theorem ofPath_path_ne {locale file : String} {format : CatalogFormat}
    (catalog : CatalogFormat.ofPath? file = some format)
    : FileKind.ofPath (Locale.path locale file) ≠ .chromeManifest := by
  rw [← Locale.ofPath?_path] at catalog
  rw [ofPath_of_catalog catalog]
  decide

end FileKind

namespace Package

variable {package : Package} {path : String} {format : CatalogFormat} {data : ByteArray}

/-- The expansion of chrome manifests is all that storing does to bytes, if it does anything. -/
def OnlyExpandsManifests (package : Package) : Prop :=
  ∀ transform ∈ package.transforms, ∃ locales, transform = Locale.expandManifest locales

/-- Files that are no chrome manifests are stored as they are, by induction on the transforms. -/
theorem OnlyExpandsManifests.transformed_of_ne (expands : package.OnlyExpandsManifests)
    (plain : FileKind.ofPath path ≠ .chromeManifest)
    : package.transformed path data = data := by
  have kept : ∀ transform ∈ package.transforms, transform path data = data := by
    intro transform member
    obtain ⟨locales, rfl⟩ := expands transform member
    rw [Locale.expandManifest, if_neg plain]
  rw [transformed]
  generalize package.transforms = transforms at kept
  induction transforms with
  | nil => rfl
  | cons transform rest ih =>
      rw [List.foldl_cons, kept transform (by simp)]
      exact ih fun other member => kept other (List.mem_cons_of_mem _ member)

/-- Catalogs are stored as they are. -/
theorem OnlyExpandsManifests.transformed_catalog (expands : package.OnlyExpandsManifests)
    (catalog : CatalogFormat.ofPath? path = some format)
    : package.transformed path data = data := by
  apply expands.transformed_of_ne
  rw [FileKind.ofPath_of_catalog catalog]
  decide

theorem OnlyExpandsManifests.congr {changed : Package} (expands : package.OnlyExpandsManifests)
    (same : changed.transforms = package.transforms)
    : changed.OnlyExpandsManifests := by
  rw [OnlyExpandsManifests, same]
  exact expands

end Package

end AddonPackager
