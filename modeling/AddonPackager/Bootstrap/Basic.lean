import AddonPackager.Build.Config
import AddonPackager.InstallManifest.Application
import AddonPackager.Json.Strict
import AddonPackager.Package.Basic
import AddonPackager.Package.FileKind
import AddonPackager.Script.Scan
import AddonPackager.Script.Window
import AddonPackager.Text.Utf8

/-! What the start script of an add-on has to wire up, found by looking through its package.
-/

namespace AddonPackager

/-- What the start script is made from. -/
structure Bootstrap where
  hasChrome : Bool
  /-- Whether a script of the chrome content requires modules. -/
  hasChromeRequires : Bool
  hasShutdownHandlers : Bool
  /-- Whether a library module uses network requests. -/
  usesRequests : Bool
  /-- Whether the preferences have a place for the current version. -/
  hasVersionPreference : Bool
  /-- The window types of the packaged windows, in the order of their files. -/
  chromeWindows : List String
  /-- The required modules. -/
  requires : Dict Unit
  metadata : Dict (Dict String)
  multicompartment : Bool
  /-- The names of applications by identifier. -/
  applications : Dict String

namespace Bootstrap

/-- The archive path of the start script. -/
def archivePath : String := "bootstrap.js"

/-- The archive path of the chrome registration file. -/
def chromeManifestPath : String := "chrome.manifest"

def preferencesPath : String := "defaults/prefs.json"

/-- What is known without a package. -/
def ofParams (params : BuildParams) : Bootstrap where
  hasChrome := false
  hasChromeRequires := false
  hasShutdownHandlers := false
  usesRequests := false
  hasVersionPreference := false
  chromeWindows := []
  requires := .empty
  metadata := params.metadata.toDict
  multicompartment := params.config.multicompartment
  applications := TargetApplication.namesById

/-- Whether preferences declare a default for the current version. -/
def declaresVersion (preferences : Json) : Bool :=
  ((preferences.member? "defaults").bind (Json.member? "currentVersion")).isSome

/-- Reads preferences, which have to be strict JSON. -/
def readPreferences (data : ByteArray) : Except BuildError Json :=
  match (String.fromUTF8? data).bind fun text => Json.Strict.parse? text.toList with
  | some preferences => .ok preferences
  | none => .error (.preferencesNotParsed preferencesPath)

/-- Adds what the scan of a script found. Where the script is decides what counts. -/
def recordScan (bootstrap : Bootstrap) (path : String) (scan : Script.Scan) : Bootstrap :=
  let inLibrary := Text.startsWith path "lib/"
  let inContent := Text.startsWith path "chrome/content/"
  let atTop := !path.toList.contains '/'
  { bootstrap with
    hasChromeRequires := bootstrap.hasChromeRequires || (inContent && !scan.requires.isEmpty)
    usesRequests := bootstrap.usesRequests || (inLibrary && scan.usesRequests)
    hasShutdownHandlers :=
      bootstrap.hasShutdownHandlers || ((atTop || inLibrary) && scan.usesShutdown)
    requires := scan.requires.foldl (fun all module => all.insert module ()) bootstrap.requires }

def scanFile (data : ByteArray) : Script.Scan :=
  Script.scan (Text.lossy data)

/-- Looks at a packaged file. -/
def inspectFile (bootstrap : Bootstrap) (file : String × ByteArray)
    : Except BuildError Bootstrap :=
  let (path, data) := file
  if path = chromeManifestPath then
    .ok { bootstrap with hasChrome := true }
  else if path = preferencesPath then
    (readPreferences data).map fun preferences =>
      { bootstrap with hasVersionPreference := declaresVersion preferences }
  else
    match FileKind.ofPath path with
    | .script => .ok (bootstrap.recordScan path (scanFile data))
    | .xul =>
        .ok { bootstrap with
          chromeWindows :=
            bootstrap.chromeWindows ++ (Script.windowType? (Text.lossy data)).toList }
    | _ => .ok bootstrap

/-- Looks at every file of a package. -/
def inspect (bootstrap : Bootstrap) (package : Package) : Except BuildError Bootstrap :=
  package.files.foldlM inspectFile bootstrap

end Bootstrap

end AddonPackager
