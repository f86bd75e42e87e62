import AddonPackager.Bundle.Import
import AddonPackager.Proofs.Locale.CatalogPaths

/-! What importing message bundles stores. The catalogs of a locale depend on the project alone,
they are all properties, and they stand below the directory of their locale.
-/

namespace AddonPackager.MessageBundle

variable {tree : FileTree} {metadata : Metadata} {locale other file : String}
  {locales : List String} {item : MetadataItem} {package changed : Package}

/-- The catalog that an option gives a locale, if there is a bundle file that can be read. -/
def itemFiles (tree : FileTree) (locale : String) (item : MetadataItem)
    : List (String × ByteArray) :=
  let source := sourcePath item locale
  if tree.isFile source then
    let target := targetPath source locale
    match readFile tree source with
    | .ok bundle => [(target, (bundle.toCatalog (.parse item.value) target).toUTF8)]
    | .error _ => []
  else
    []

def localeFiles (tree : FileTree) (metadata : Metadata) (locale : String)
    : List (String × ByteArray) :=
  (metadata.items sectionName).flatMap (itemFiles tree locale)

theorem eq_putAll_of_importItem (done : importItem tree locale package item = .ok changed)
    : changed = package.putAll (itemFiles tree locale item) := by
  simp only [importItem] at done
  simp only [itemFiles]
  by_cases isFile : tree.isFile (sourcePath item locale) = true
  · rw [if_pos isFile] at done ⊢
    cases read : readFile tree (sourcePath item locale) with
    | ok bundle =>
        rw [read] at done
        cases done
        rfl
    | error cause =>
        rw [read] at done
        cases done
  · rw [if_neg isFile] at done ⊢
    cases done
    rfl

theorem eq_putAll_of_importLocale (done : importLocale tree metadata package locale = .ok changed)
    : changed = package.putAll (localeFiles tree metadata locale) :=
  Package.eq_putAll_of_foldlM eq_putAll_of_importItem done

/-- Importing for locales stores the catalogs of each. -/
theorem eq_putAll_of_importLocales
    (done : importLocales tree metadata locales package = .ok changed)
    : changed = package.putAll (locales.flatMap (localeFiles tree metadata)) :=
  Package.eq_putAll_of_foldlM eq_putAll_of_importLocale done

/-- The catalog of an option is the target of its bundle file. -/
theorem target_of_mem_itemFiles {entry : String × ByteArray}
    (member : entry ∈ itemFiles tree locale item)
    : tree.isFile (sourcePath item locale) = true
      ∧ entry.1 = targetPath (sourcePath item locale) locale := by
  simp only [itemFiles] at member
  split at member
  · rename_i isFile
    split at member
    · rw [List.mem_singleton.mp member]
      exact ⟨isFile, rfl⟩
    · simp at member
  · simp at member

/-- An imported catalog is the target of a bundle file. -/
theorem exists_item_of_mem_localeFiles {entry : String × ByteArray}
    (member : entry ∈ localeFiles tree metadata locale)
    : ∃ item ∈ metadata.items sectionName,
        tree.isFile (sourcePath item locale) = true
        ∧ entry.1 = targetPath (sourcePath item locale) locale := by
  obtain ⟨item, isItem, listed⟩ := List.mem_flatMap.mp member
  exact ⟨item, isItem, target_of_mem_itemFiles listed⟩

/-- An imported catalog has properties and stands below the directory of its locale. -/
theorem exists_path_of_mem_localeFiles {entry : String × ByteArray}
    (member : entry ∈ localeFiles tree metadata locale)
    : ∃ stem, entry.1 = Locale.path locale (stem ++ ".properties") := by
  obtain ⟨item, -, -, here⟩ := exists_item_of_mem_localeFiles member
  exact ⟨_, here⟩

/-- A locale has no imported catalogs below another one. -/
theorem get?_localeFiles_of_ne (named : Locale.isName locale = true)
    (otherNamed : Locale.isName other = true) (different : other ≠ locale)
    : Assoc.get? (Locale.path locale file) (localeFiles tree metadata other).reverse = none := by
  rw [Assoc.get?_eq_none_iff]
  intro member
  obtain ⟨entry, listed, same⟩ := List.mem_map.mp member
  obtain ⟨own, here⟩ := exists_path_of_mem_localeFiles (List.mem_reverse.mp listed)
  exact different ((Locale.path_eq_iff otherNamed named).mp (here.symm.trans same)).1

/-- After an import, the last catalog imported under a path counts, and what was there before
counts only without one.
-/
theorem get?_importLocales (expands : package.OnlyExpandsManifests)
    (plain : FileKind.ofPath (Locale.path locale file) ≠ .chromeManifest)
    (named : ∀ locale ∈ locales, Locale.isName locale = true) (member : locale ∈ locales)
    (done : importLocales tree metadata locales package = .ok changed)
    : changed.get? (Locale.path locale file)
      = (Assoc.get? (Locale.path locale file) (localeFiles tree metadata locale).reverse).or
          (package.get? (Locale.path locale file)) := by
  have asStored : package.transformed (Locale.path locale file) = id := by
    funext data
    exact expands.transformed_of_ne plain
  have others : ∀ other ∈ locales.reverse, other ≠ locale →
      Assoc.get? (Locale.path locale file) (localeFiles tree metadata other).reverse = none := by
    intro other otherMember different
    exact get?_localeFiles_of_ne (named locale member)
      (named other (List.mem_reverse.mp otherMember)) different
  rw [eq_putAll_of_importLocales done, Package.get?_putAll, asStored, Option.map_id,
    List.reverse_flatMap]
  have chosen := Assoc.get?_flatMap others
  rw [if_pos (List.mem_reverse.mpr member)] at chosen
  exact congrArg (Option.or · _) chosen

end AddonPackager.MessageBundle
