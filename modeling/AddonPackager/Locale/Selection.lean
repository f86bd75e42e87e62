import AddonPackager.Text.Split
import AddonPackager.Text.Trim

/-! Which locales a build packages.
-/

namespace AddonPackager.Locale

/-- A choice of locales. -/
inductive Selection where
  /-- All complete locales. -/
  | complete
  /-- All locales, incomplete ones too. -/
  | all
  /-- The listed locales in the listed order. -/
  | explicit (locales : List String)
  deriving DecidableEq, Repr

/-- Reads a choice: the word `all`, or names separated by commas. No name at all is the choice
of the complete locales.
-/
def Selection.parse (value : String) : Selection :=
  if Text.trimmed value = "all" then
    .all
  else
    match ((Text.pieces ',' value).map Text.trimmed).filter (· != "") with
    | [] => .complete
    | locales => .explicit locales

end AddonPackager.Locale
