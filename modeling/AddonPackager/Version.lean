import AddonPackager.Unicode.Class

/-! Versions of builds.
-/

namespace AddonPackager.Version

open Unicode

/-- Whether the last component of a version is a number. -/
def endsInNumber (version : List Char) : Bool :=
  match version.reverse.span isDecimal with
  | ([], _) => false
  | (_, []) => true
  | (_, c :: _) => c == '.'

/-- The version with `.0` put after it until it has three components. -/
def padded (version : List Char) : List Char :=
  version ++ (List.replicate (2 - version.count '.') ['.', '0']).flatten

/-- The version of a build. A release has the version of its metadata; any other build appends
its build number, after padding a version that ends in a number.
-/
def ofBuild (version : String) (release : Bool) (buildNumber : String) : String :=
  if release || buildNumber = "" then
    version
  else
    let base := version.toList
    let base := if endsInNumber base then padded base else base
    String.ofList base ++ "." ++ buildNumber

/-- The build number of a project without version control. -/
def unknownBuild : String :=
  "0"

/-- The name of the archive when none is asked for. -/
def archiveName (basename version extension : String) : String :=
  basename ++ "-" ++ version ++ "." ++ extension

end AddonPackager.Version
