import AddonPackager.InstallManifest.Application
import AddonPackager.InstallManifest.LocaleDetails
import AddonPackager.Text.Markup

/-! The install manifest: the description of an add-on that applications read first. Its text is
built from fixed markup and from values, and values are escaped wherever they stand.
-/

namespace AddonPackager.InstallManifest

/-- The archive path of the install manifest. -/
def archivePath : String := "install.rdf"

/-- A part of the manifest. -/
inductive Piece where
  /-- Markup as it is. -/
  | fixed (markup : String)
  /-- A text that the markup shows. -/
  | value (text : String)
  deriving DecidableEq, Repr

def Piece.text : Piece → String
  | .fixed markup => markup
  | .value text => Text.markup text

abbrev Line := List Piece

def fixedLine (markup : String) : Line :=
  [.fixed markup]

/-- A line with an element that shows a value. -/
def element (indent tag value : String) : Line :=
  [.fixed (indent ++ "<em:" ++ tag ++ ">"), .value value, .fixed ("</em:" ++ tag ++ ">")]

/-- A line with an element, left out if the value is empty. -/
def optionalElement (indent tag value : String) : List Line :=
  if value = "" then [] else [element indent tag value]

/-- The indentation of elements of the add-on. -/
def outerIndent : String := "    "

/-- The indentation of elements of a part of the add-on. -/
def innerIndent : String := "        "

/-- The strings of a locale, unless they are those of the default locale or have no name. -/
def localizedLines (defaultLocale locale : String) (details : LocaleDetails) : List Line :=
  if locale = defaultLocale || details.value "name" = "" then
    []
  else
    [fixedLine "", fixedLine "    <em:localized>", fixedLine "      <Description>",
      element innerIndent "locale" locale, element innerIndent "name" (details.value "name")]
    ++ optionalElement innerIndent "description" (details.value "description")
    ++ details.translators.map (element innerIndent "translator")
    ++ [fixedLine "      </Description>", fixedLine "    </em:localized>"]

def applicationLines (application : TargetApplication) : List Line :=
  [fixedLine "", [.fixed "    <!-- ", .value application.name, .fixed " -->"],
    fixedLine "    <em:targetApplication>", fixedLine "      <Description>",
    element innerIndent "id" application.id,
    element innerIndent "minVersion" application.minVersion,
    element innerIndent "maxVersion" application.maxVersion,
    fixedLine "      </Description>", fixedLine "    </em:targetApplication>"]

/-- The lines before the description of the add-on. -/
def header : List Line :=
  [fixedLine "<?xml version=\"1.0\"?>", fixedLine "",
    fixedLine "<RDF xmlns=\"http://www.w3.org/1999/02/22-rdf-syntax-ns#\"",
    fixedLine "     xmlns:em=\"http://www.mozilla.org/2004/em-rdf#\">",
    fixedLine "  <Description about=\"urn:mozilla:install-manifest\">"]

/-- The lines after the description of the add-on. -/
def footer : List Line :=
  [fixedLine "  </Description>", fixedLine "</RDF>"]

/-- The name of the add-on: what the default locale calls it, else its base name. -/
def addonName (fallback : LocaleDetails) (basename : String) : String :=
  if fallback.value "name" = "" then basename else fallback.value "name"

/-- The lines of the manifest, with the details of the locales. -/
def lines (params : BuildParams) (locales : Dict LocaleDetails) : List Line :=
  let general := fun key => (params.metadata.get? "general" key).getD ""
  let details := fun locale => (locales.get? locale).getD .empty
  let defaultLocale := params.config.defaultLocale
  let fallback := details defaultLocale
  header
  ++ [element outerIndent "id" (general "id"), element outerIndent "version" params.version,
    element outerIndent "name" (addonName fallback (general "basename"))]
  ++ optionalElement outerIndent "description" (fallback.value "description")
  ++ optionalElement outerIndent "creator" (general "author")
  ++ optionalElement outerIndent "homepageURL" (general "homepage")
  ++ params.contributors.map (element outerIndent "contributor")
  ++ [fixedLine "    <em:type>2</em:type>", fixedLine "    <em:bootstrap>true</em:bootstrap>",
    fixedLine "    <em:unpack>false</em:unpack>"]
  ++ (if params.config.multicompartment then
      [fixedLine "    <em:multiprocessCompatible>true</em:multiprocessCompatible>"]
    else
      [])
  ++ optionalElement outerIndent "iconURL" (general "icon")
  ++ params.locales.flatMap (fun locale =>
    localizedLines defaultLocale locale (details locale))
  ++ (TargetApplication.ofMetadata params.metadata).flatMap applicationLines
  ++ footer

def lineText (line : Line) : String :=
  String.join (line.map Piece.text)

def render (params : BuildParams) (locales : Dict LocaleDetails) : String :=
  Text.join "\n" ((lines params locales).map lineText)

/-- The manifest of an add-on, with the details of its locales read from its directory. -/
def create (tree : FileTree) (params : BuildParams) : String :=
  render params (LocaleDetails.readAll tree params)

end AddonPackager.InstallManifest
