import AddonPackager.Build.Error
import AddonPackager.FileTree.Tree
import AddonPackager.Locale.Name

/-! Finding the locales of a project: the subdirectories of its locales directory.
-/

namespace AddonPackager.Locale

/-- The entry that marks a locale as incomplete. -/
def incompleteMarker : String :=
  ".incomplete"

/-- A directory holds a locale if its name is a locale name, it is not empty and, unless
incomplete locales count, it is not marked incomplete.
-/
def isLocale (tree : FileTree) (directory : DiskPath) (name : String) (incomplete : Bool)
    : Bool :=
  isName name &&
    match tree.list? (directory ++ DiskPath.mk name) with
    | some entries =>
        !entries.isEmpty && (incomplete || !tree.holds
          (directory ++ DiskPath.mk name ++ DiskPath.mk incompleteMarker))
    | none => false

/-- The order of locales: the default locale first, then by name. -/
def precedes (defaultLocale a b : String) : Bool :=
  if a = defaultLocale then true
  else if b = defaultLocale then false
  else a ≤ b

/-- The locales in a directory, the default locale first. -/
def available (tree : FileTree) (directory : DiskPath) (incomplete : Bool)
    (defaultLocale : String) : List String :=
  match tree.list? directory with
  | some entries =>
      ((Assoc.names entries).filter (isLocale tree directory · incomplete)).mergeSort
        (precedes defaultLocale)
  | none => []

end AddonPackager.Locale
