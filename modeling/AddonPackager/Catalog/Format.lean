import AddonPackager.Text.Search
import AddonPackager.Unicode.Class

/-! The two formats of locale catalogs and how each writes an entry.
-/

namespace AddonPackager

/-- The catalog formats, told apart by the extension of a file. -/
inductive CatalogFormat where
  /-- Lines of the form `key=value`. -/
  | properties
  /-- Entity declarations. -/
  | dtd
  deriving DecidableEq, Repr

namespace CatalogFormat

open Unicode

/-- The format of a file, if it is a catalog. -/
def ofPath? (path : String) : Option CatalogFormat :=
  if Text.endsWith path ".properties" then some .properties
  else if Text.endsWith path ".dtd" then some .dtd
  else none

/-- A property with its line feeds written as escapes. -/
def escapeProperty (text : List Char) : List Char :=
  text.flatMap fun c => if c = '\n' then ['\\', 'n'] else [c]

def isEntityChar (c : Char) : Bool :=
  isWord c || c == '.' || c == '-'

/-- ASCII hexadecimal digits. -/
def isHexDigit (c : Char) : Bool :=
  c.isDigit || ('a' ≤ c && c ≤ 'f') || ('A' ≤ c && c ≤ 'F')

/-- Whether a text starts with at least one character of a class and then a semicolon. -/
def endsReference (inside : Char → Bool) : List Char → Bool
  | [] => false
  | c :: rest => inside c && (rest.dropWhile inside).head? == some ';'

/-- Whether a text starts with what follows the ampersand of an entity or character reference. -/
def isReferenceTail : List Char → Bool
  | '#' :: 'x' :: rest => endsReference isHexDigit rest
  | '#' :: rest => endsReference Char.isDigit rest
  | c :: rest => (c.isAlpha || c == '_') && (rest.dropWhile isEntityChar).head? == some ';'
  | [] => false

/-- An entity value as it stands between double quotes. References stay as they are. -/
def escapeEntity : List Char → List Char
  | [] => []
  | c :: rest =>
      let written :=
        -- The ampersand of a reference is no character of its own.
        if c = '&' then if isReferenceTail rest then ['&'] else "&amp;".toList
        else if c = '<' then "&lt;".toList
        else if c = '>' then "&gt;".toList
        else if c = '"' then "&quot;".toList
        else [c]
      written ++ escapeEntity rest

/-- The characters of one entry, ended by a line feed. -/
def entryChars (format : CatalogFormat) (key value : List Char) : List Char :=
  match format with
  | .properties => escapeProperty key ++ '=' :: escapeProperty value ++ ['\n']
  | .dtd =>
      "<!ENTITY ".toList ++ escapeEntity key ++ ' ' :: '"' :: escapeEntity value ++ ['"', '>', '\n']

/-- The text of one entry, ended by a line feed. -/
def entry (format : CatalogFormat) (key value : String) : String :=
  String.ofList (format.entryChars key.toList value.toList)

/-- The text of an entry in the format of a file; files that are no catalogs get properties. -/
def entryFor (path key value : String) : String :=
  ((ofPath? path).getD .properties).entry key value

end CatalogFormat

end AddonPackager
