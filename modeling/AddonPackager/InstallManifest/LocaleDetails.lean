import AddonPackager.Build.Config
import AddonPackager.Catalog.Basic
import AddonPackager.FileTree.Tree
import AddonPackager.Unicode.Case

/-! What locales say about the add-on, and who translated it.
-/

namespace AddonPackager

/-- The strings of a locale about the add-on. -/
structure LocaleDetails where
  values : Dict String
  translators : List String

namespace LocaleDetails

/-- The file of a locale that holds the strings. -/
def fileName : String := "meta.properties"

def empty : LocaleDetails :=
  ⟨.empty, []⟩

instance : Inhabited LocaleDetails := ⟨empty⟩

/-- The names in a list separated by commas, sorted without regard to case. -/
def translatorsOf (names : String) : List String :=
  (((Text.pieces ',' names).map Text.trimmed).filter (· != "")).mergeSort fun a b =>
    Unicode.lower a ≤ Unicode.lower b

def ofCatalog (catalog : Catalog) : LocaleDetails :=
  let values := Dict.ofList catalog.entries
  ⟨values, ((values.get? "translator").map translatorsOf).getD []⟩

/-- A string of the locale; a missing one is empty. -/
def value (details : LocaleDetails) (key : String) : String :=
  (details.values.get? key).getD ""

/-- Reads the strings of a locale. A file that cannot be read holds none. -/
def read (tree : FileTree) (config : BuildConfig) (locale : String) : LocaleDetails :=
  match tree.readText? (config.localeDirectory locale ++ DiskPath.mk fileName) with
  | some text =>
      match Catalog.parse text fileName with
      | .ok (some catalog) => ofCatalog catalog
      | _ => empty
  | none => empty

/-- The details of the packaged locales and of the default locale. -/
def readAll (tree : FileTree) (params : BuildParams) : Dict LocaleDetails :=
  .ofList ((params.locales ++ [params.config.defaultLocale]).map fun locale =>
    (locale, read tree params.config locale))

end LocaleDetails

end AddonPackager
