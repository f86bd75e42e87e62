import AddonPackager.Build.Config
import AddonPackager.Bundle.Import
import AddonPackager.Catalog.Basic
import AddonPackager.Package.Reading

/-! Filling the gaps of locale catalogs from the default locale. The catalogs of the default
locale are references: every key of a reference ends up in every packaged locale. Catalogs only
grow at their end, and a catalog that a locale lacks is copied.
-/

namespace AddonPackager.Locale

/-- The catalogs of the default locale by their paths inside it. -/
structure References where
  catalogs : Dict Catalog

namespace References

/-! Collecting -/

/-- What a file of the default locale comes to: its catalog, if it is one that can be read, and
warnings.
-/
def inspect (path : String) (data : ByteArray) : Option Catalog × List Warning :=
  match String.fromUTF8? data with
  | none =>
      (none, if (CatalogFormat.ofPath? path).isSome then [.catalogNotText path] else [])
  | some text =>
      match Catalog.parse text path with
      | .ok (some catalog) => (some catalog, catalog.unrecognized.map (.unrecognizedLine path))
      | .ok none => (none, [])
      | .error error => (none, [.malformed path error.message])

/-- The files below a directory of the package, by their paths inside it. -/
def filesBelow (root : String) (files : List (String × ByteArray))
    : List (String × ByteArray) :=
  files.filterMap fun (path, data) =>
    (Text.stripPrefix? root.toList path.toList).map fun file => (String.ofList file, data)

/-- The references among files of a locale, and warnings. -/
def ofFiles (locale : String) (files : List (String × ByteArray)) : References × List Warning :=
  let found := (filesBelow (path locale "") files).map fun (file, data) =>
    (file, inspect (path locale file) data)
  (⟨.ofList (found.filterMap fun (file, catalog, _) => catalog.map ((file, ·)))⟩,
    found.flatMap fun (_, _, warnings) => warnings)

/-- The default locale alone in a package of its own: its directory and its imported bundles. -/
def scratch (tree : FileTree) (params : BuildParams) (filter : PathFilter)
    : Except Package.Failure Package := do
  let config := params.config
  let directory := config.localeDirectory config.defaultLocale
  let start := Package.empty filter
  let read ←
    if tree.isDirectory directory then
      start.read tree directory (directory.archiveName config.base) []
    else
      .ok start
  MessageBundle.importLocales tree params.metadata [config.defaultLocale] read

/-- Collects the references. The package only receives warnings. -/
def collect (tree : FileTree) (params : BuildParams) (package : Package)
    : Except Package.Failure (References × Package) :=
  match scratch tree params package.filter with
  | .error failure => .error ⟨failure.cause, package⟩
  | .ok scratch =>
      let (references, warnings) := ofFiles params.config.defaultLocale scratch.files
      .ok (references, (package.warnAll scratch.warnings).warnAll warnings)

/-! Merging -/

/-- The entries of a reference whose keys a catalog lacks. -/
def missing (reference target : Catalog) : List (String × String) :=
  reference.entries.filter fun entry => !target.contains entry.1

/-- The text that gives a catalog the keys it lacks. -/
def supplement (reference target : Catalog) : String :=
  let added := String.join ((missing reference target).map fun (key, value) =>
    target.format.entry key value)
  -- The first added entry starts a line of its own.
  if added = "" then ""
  else if target.raw = "" || Text.endsWith target.raw "\n" then added
  else "\n" ++ added

/-- Merges a reference into the catalog with the given text. -/
def mergeCatalog (package : Package) (path text : String) (reference : Catalog) : Package :=
  match Catalog.parse text path with
  | .error error => package.warn (.malformed path error.message)
  | .ok none => package
  | .ok (some target) =>
      let added := supplement reference target
      if added = "" then package else package.append path added.toUTF8

/-- Merges a reference into the file of a locale. -/
def mergeFile (locale : String) (package : Package) (entry : String × Catalog) : Package :=
  let target := path locale entry.1
  match package.get? target with
  | none => package.putText target entry.2.raw
  | some data =>
      match String.fromUTF8? data with
      | some text => mergeCatalog package target text entry.2
      | none => package.warn (.catalogNotText target)

def mergeLocale (references : References) (package : Package) (locale : String) : Package :=
  references.catalogs.toList.foldl (mergeFile locale) package

/-- Merges all references into locales, one locale after the other. -/
def mergeInto (references : References) (locales : List String) (package : Package) : Package :=
  locales.foldl references.mergeLocale package

end References

/-- Fills the gaps of the packaged locales from the default locale. -/
def fillGaps (tree : FileTree) (params : BuildParams) (package : Package)
    : Except Package.Failure Package :=
  (References.collect tree params package).map fun (references, package) =>
    references.mergeInto params.locales package

end AddonPackager.Locale
