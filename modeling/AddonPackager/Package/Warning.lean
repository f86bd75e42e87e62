/-! Problems that a build reports without failing.
-/

namespace AddonPackager

/-- The kinds of warnings. -/
inductive WarningKind where
  /-- An archive path is offered twice; the first content is kept. -/
  | conflict
  /-- The source of a mapped file does not exist. -/
  | missingSource
  /-- A catalog cannot be read. -/
  | malformedCatalog
  | unrecognizedCatalogLine
  | unrecognizedContributor
  deriving DecidableEq, Repr

/-- A warning and where it belongs. -/
structure Warning where
  kind : WarningKind
  message : String
  location : Option String
  deriving DecidableEq, Repr

namespace Warning

def text (warning : Warning) : String :=
  match warning.location with
  | some location => warning.message ++ " (" ++ location ++ ")"
  | none => warning.message

/-- A path that is offered again. -/
def conflict (path : String) : Warning :=
  ⟨.conflict, "File " ++ path ++ " defined multiple times", some path⟩

/-- A mapped file without source. -/
def missingSource (target source : String) : Warning :=
  ⟨.missingSource, "Mapped file " ++ source ++ " doesn't exist", some target⟩

/-- A catalog with content that its format does not allow. -/
def malformed (path message : String) : Warning :=
  ⟨.malformedCatalog, message, some path⟩

def catalogNotText (path : String) : Warning :=
  malformed path (path ++ " is not valid UTF-8")

/-- A line of a catalog that is neither entry nor comment. -/
def unrecognizedLine (path line : String) : Warning :=
  ⟨.unrecognizedCatalogLine, "Unrecognized data in file " ++ path ++ ": " ++ line, some path⟩

/-- A contributor option that names no place. -/
def unrecognizedContributor (key value : String) : Warning :=
  ⟨.unrecognizedContributor, "Unrecognized contributor location \"" ++ value ++ "\"",
    some ("contributors:" ++ key)⟩

end Warning

end AddonPackager
