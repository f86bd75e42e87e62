import AddonPackager.Bundle.Basic
import AddonPackager.FileTree.Tree
import AddonPackager.Locale.Name
import AddonPackager.Metadata.Basic
import AddonPackager.Package.Basic

/-! Importing message bundles into a package. Options name bundle files, with a star for the
locale, and the keys to take; each bundle becomes a catalog of the locale.
-/

namespace AddonPackager.MessageBundle

def sectionName : String := "import_locales"

/-- Where the bundle of an option is for a locale. -/
def sourcePath (item : MetadataItem) (locale : String) : DiskPath :=
  item.sourceDirectory ++ DiskPath.ofParts
    ((Text.pieces '/' item.key).map fun part => if part = "*" then locale else part)

/-- The archive path of the catalog that a bundle file becomes. -/
def targetPath (source : DiskPath) (locale : String) : String :=
  Locale.path locale (source.fileStem ++ ".properties")

def readFile (tree : FileTree) (source : DiskPath) : Except BuildError MessageBundle :=
  match tree.readText? source with
  | none => .error (.bundleUnreadable source)
  | some text =>
      match parse? text with
      | some bundle => .ok bundle
      | none => .error (.bundleNotParsed source)

/-- Stores the catalog of one option for one locale, if there is a bundle file. -/
def importItem (tree : FileTree) (locale : String) (package : Package) (item : MetadataItem)
    : Except Package.Failure Package :=
  let source := sourcePath item locale
  if tree.isFile source then
    let target := targetPath source locale
    match readFile tree source with
    | .ok bundle => .ok (package.putText target (bundle.toCatalog (.parse item.value) target))
    | .error cause => .error ⟨cause, package⟩
  else
    .ok package

/-- Stores the catalogs of all options for one locale. -/
def importLocale (tree : FileTree) (metadata : Metadata) (package : Package) (locale : String)
    : Except Package.Failure Package :=
  (metadata.items sectionName).foldlM (importItem tree locale) package

/-- Stores the catalogs of all options for locales, one locale after the other. -/
def importLocales (tree : FileTree) (metadata : Metadata) (locales : List String)
    (package : Package) : Except Package.Failure Package :=
  locales.foldlM (importLocale tree metadata) package

end AddonPackager.MessageBundle
