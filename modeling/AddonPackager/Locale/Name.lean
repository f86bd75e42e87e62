import AddonPackager.Unicode.Class

/-! Names of locales and the archive paths below a locale.
-/

namespace AddonPackager.Locale

open Unicode

def isNameChar (c : Char) : Bool :=
  isWord c || c == '-'

/-- A locale name is not empty and consists of word characters and dashes. -/
def isName (name : String) : Bool :=
  !name.toList.isEmpty && name.toList.all isNameChar

/-- The archive directory with one subdirectory for each locale. -/
def rootPath : String :=
  "chrome/locale"

/-- The archive path of a file of a locale. -/
def path (locale file : String) : String :=
  rootPath ++ "/" ++ locale ++ "/" ++ file

end AddonPackager.Locale
