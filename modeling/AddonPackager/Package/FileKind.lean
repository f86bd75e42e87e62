import AddonPackager.Text.Split

/-! What kind of file an archive path names, by its extension.
-/

namespace AddonPackager

/-- The kinds of files that packaging tells apart. -/
inductive FileKind where
  /-- A chrome registration file, in which locale placeholders are expanded. -/
  | chromeManifest
  | script
  | xul
  /-- HTML or XML, where printed values are escaped. -/
  | markup
  | other
  deriving DecidableEq, Repr

namespace FileKind

/-- The last segment of a slash separated path. -/
def baseName (path : String) : List Char :=
  (path.toList.splitOn '/').getLastD []

/-- What follows the last dot of a file name. A leading dot starts no extension. -/
def extension? (name : List Char) : Option (List Char) :=
  match name.reverse.span (· != '.') with
  | (extension, _ :: _ :: _) => some extension.reverse
  | _ => none

/-- The kind of a file; the case of an extension does not matter. -/
def ofPath (path : String) : FileKind :=
  match extension? (baseName path) with
  | none => .other
  | some extension =>
      let extension := String.ofList (extension.map Char.toLower)
      if extension = "manifest" then .chromeManifest
      else if extension = "js" then .script
      else if extension = "xul" then .xul
      else if extension = "html" || extension = "xml" then .markup
      else .other

/-- Whether values printed into such a file are escaped. -/
def autoEscape (kind : FileKind) : Bool :=
  kind = .markup

end FileKind

end AddonPackager
