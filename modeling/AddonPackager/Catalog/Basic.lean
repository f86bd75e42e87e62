import AddonPackager.Assoc
import AddonPackager.Catalog.Dtd
import AddonPackager.Catalog.Properties
import AddonPackager.Catalog.Table

/-! Locale catalogs: messages by key, with the text they were read from.
-/

namespace AddonPackager

/-- A catalog that has been read. -/
structure Catalog where
  format : CatalogFormat
  /-- Messages in the order in which their keys first appear. -/
  entries : List (String × String)
  /-- The text of the file. -/
  raw : String
  /-- Lines of a properties file that are neither entries nor comments. -/
  unrecognized : List String
  deriving DecidableEq, Repr

/-- A file with content that its format does not allow. -/
structure MalformedCatalog where
  path : String
  snippet : String
  deriving DecidableEq, Repr

def MalformedCatalog.message (error : MalformedCatalog) : String :=
  "unexpected content in " ++ error.path ++ ": " ++ error.snippet

namespace Catalog

/-- Messages with each key once, in the place of its first and with the value of its last
appearance.
-/
def collect (entries : List (String × String)) : List (String × String) :=
  (Table.ofEntries entries).entries

/-- Reads a text in a format. The path is for the error only. -/
def read (format : CatalogFormat) (text path : String) : Except MalformedCatalog Catalog :=
  match format with
  | .properties =>
      .ok ⟨.properties, collect (Properties.entries text.toList), text,
        Properties.unrecognized text.toList⟩
  | .dtd =>
      match Dtd.entries text.toList with
      | .ok entries => .ok ⟨.dtd, collect entries, text, []⟩
      | .error snippet => .error ⟨path, String.ofList snippet⟩

/-- Reads the text of a file. Files that are no catalogs give none. -/
def parse (text path : String) : Except MalformedCatalog (Option Catalog) :=
  match CatalogFormat.ofPath? path with
  | some format => (read format text path).map some
  | none => .ok none

/-- The message of a key. -/
def get? (catalog : Catalog) (key : String) : Option String :=
  Assoc.get? key catalog.entries

def contains (catalog : Catalog) (key : String) : Bool :=
  (catalog.get? key).isSome

def keys (catalog : Catalog) : List String :=
  Assoc.names catalog.entries

end Catalog

end AddonPackager
