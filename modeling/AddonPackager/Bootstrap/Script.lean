import AddonPackager.Bootstrap.Basic
import AddonPackager.Json.Printer

/-! The text of the start script. It is put together from lines; parts that the add-on does not
need are left out.
-/

namespace AddonPackager.Bootstrap

/-! Layout -/

/-- Lines moved to the right. Empty lines stay empty. -/
def indented (lines : List String) : List String :=
  lines.map fun line => if line = "" then line else "  " ++ line

/-- Lines between braces, with something behind the closing brace. -/
def blockBefore (after : String) (body : List String) : List String :=
  "\x7b" :: indented body ++ ["\x7d" ++ after]

def block (body : List String) : List String :=
  blockBefore "" body

def headed (heading : String) (body : List String) : List String :=
  heading :: block body

/-- A property of an object with a function as its value. -/
def method (after heading : String) (body : List String) : List String :=
  heading :: blockBefore after body

/-- Lines that are only there on a condition. -/
def onlyIf (condition : Bool) (lines : List String) : List String :=
  if condition then lines else []

/-! Parts -/

/-- The names that the script works with. -/
def declarations (bootstrap : Bootstrap) : List String :=
  ["/*", " * Generated bootstrap code, do not edit.", " */", "", "\"use strict\";", "",
    "const Cc = Components.classes;", "const Ci = Components.interfaces;",
    "const Cr = Components.results;", "const Cu = Components.utils;", "",
    "let \x7bServices\x7d = Cu.import(\"resource://gre/modules/Services.jsm\", \x7b\x7d);"]
  ++ onlyIf bootstrap.usesRequests
    ["let XMLHttpRequest = Components.Constructor(\"@mozilla.org/xmlextras/xmlhttprequest;1\", \"nsIXMLHttpRequest\");"]
  ++ ["", "let addonData = null;", "let moduleScopes = new Map();"]

def shutdownRegistration : List String :=
  ["let shutdownHandlers = [];", "let onShutdown ="]
  ++ blockBefore ";" (
    ["done: false,"]
    ++ method "," "add: function(handler)"
      ["if (shutdownHandlers.indexOf(handler) < 0)", "  shutdownHandlers.push(handler);"]
    ++ method "" "remove: function(handler)"
      ["let index = shutdownHandlers.indexOf(handler);", "if (index >= 0)",
        "  shutdownHandlers.splice(index, 1);"])

/-- A map from texts to texts as JSON. -/
def jsonOfDict (dict : Dict String) : Json :=
  .object (dict.toList.map fun (key, value) => (key, .string value))

/-- What the script knows about the package. -/
def constants (bootstrap : Bootstrap) : List String :=
  ["const knownModules = " ++ (Json.ofTexts bootstrap.requires.keys).compact ++ ";",
    "const applications = " ++ (jsonOfDict bootstrap.applications).compact ++ ";",
    "const chromeWindows = " ++ (Json.ofTexts bootstrap.chromeWindows).compact ++ ";",
    "const multicompartment = " ++ (if bootstrap.multicompartment then "true" else "false") ++ ";"]

/-- What happens when the add-on starts. -/
def startup (bootstrap : Bootstrap) (basename : String) : List String :=
  headed "function startup(params, reason)" (
    ["addonData = params;"]
    ++ onlyIf bootstrap.hasVersionPreference ["setDefaultVersionPref(params.version);"]
    ++ onlyIf bootstrap.hasChrome
      ["Components.manager.addBootstrappedManifestLocation(params.installPath);"]
    ++ onlyIf bootstrap.hasChromeRequires
      ["Services.obs.addObserver(requireObserver, \"" ++ basename ++ "-require\", true);"]
    ++ ["require(\"main\");"])

def shutdownCalls : List String :=
  ["onShutdown.done = true;"]
  ++ headed "for (let i = shutdownHandlers.length - 1; i >= 0; i--)" (
    headed "try" ["shutdownHandlers[i]();"] ++ headed "catch (e)" ["Cu.reportError(e);"])
  ++ ["shutdownHandlers = null;"]

/-- What happens when the add-on stops. -/
def shutdown (bootstrap : Bootstrap) (basename : String) : List String :=
  headed "function shutdown(params, reason)" (
    ["if (reason == APP_SHUTDOWN)", "  return;"]
    ++ onlyIf bootstrap.hasChromeRequires
      ["Services.obs.removeObserver(requireObserver, \"" ++ basename ++ "-require\");"]
    ++ onlyIf bootstrap.hasShutdownHandlers shutdownCalls
    ++ headed "for (let window of Services.wm.getEnumerator(null))"
      ["let type = window.document.documentElement.getAttribute(\"windowtype\");",
        "if (chromeWindows.indexOf(type) >= 0)", "  window.close();"]
    ++ ["moduleScopes.clear();"]
    ++ onlyIf bootstrap.hasChrome
      ["Components.manager.removeBootstrappedManifestLocation(params.installPath);"]
    ++ ["Services.obs.notifyObservers(null, \"chrome-flush-caches\", null);"])

def versionPreference (basename : String) : List String :=
  "" :: headed "function setDefaultVersionPref(version)"
    ["let branch = Services.prefs.getDefaultBranch(\"extensions." ++ basename ++ ".\");",
      "branch.setCharPref(\"currentVersion\", version);"]

def moduleLoading (bootstrap : Bootstrap) : List String :=
  headed "function require(module)" (
    ["let scope = moduleScopes.get(module);"]
    ++ headed "if (!scope)" (
      ["let principal = multicompartment ? Services.scriptSecurityManager.getSystemPrincipal() : null;",
        "scope = principal ? Cu.Sandbox(principal, \x7bsandboxName: module\x7d) : \x7b\x7d;",
        "scope.Cc = Cc;", "scope.Ci = Ci;", "scope.Cr = Cr;", "scope.Cu = Cu;",
        "scope.Services = Services;", "scope.require = require;", "scope.exports = \x7b\x7d;",
        "scope.addonData = addonData;"]
      ++ onlyIf bootstrap.hasShutdownHandlers ["scope.onShutdown = onShutdown;"]
      ++ onlyIf bootstrap.usesRequests ["scope.XMLHttpRequest = XMLHttpRequest;"]
      ++ ["moduleScopes.set(module, scope);",
        "Services.scriptloader.loadSubScript(addonData.resourceURI.spec + \"lib/\" + module + \".js\", scope);"])
    ++ ["return scope.exports;"])

/-- The object through which chrome scripts load modules. -/
def requireObserver (basename : String) : List String :=
  ["", "let requireObserver ="]
  ++ blockBefore ";" (
    method "," "observe: function(subject, topic, data)" (
      headed ("if (topic == \"" ++ basename ++ "-require\")")
        ["subject.wrappedJSObject.exports = require(data);"])
    ++ method "" "QueryInterface: function(iid)"
      ["if (iid.equals(Ci.nsIObserver) || iid.equals(Ci.nsISupportsWeakReference) || iid.equals(Ci.nsISupports))",
        "  return this;", "throw Cr.NS_ERROR_NO_INTERFACE;"])

/-- The lines of the script of an add-on with a base name. -/
def scriptLines (bootstrap : Bootstrap) (basename : String) : List String :=
  declarations bootstrap
  ++ onlyIf bootstrap.hasShutdownHandlers shutdownRegistration
  ++ [""] ++ constants bootstrap
  ++ ["", "function install(params, reason) \x7b\x7d",
    "function uninstall(params, reason) \x7b\x7d", ""]
  ++ startup bootstrap basename ++ [""] ++ shutdown bootstrap basename
  ++ onlyIf bootstrap.hasVersionPreference (versionPreference basename)
  ++ [""] ++ moduleLoading bootstrap
  ++ onlyIf bootstrap.hasChromeRequires (requireObserver basename)

/-! Whole script -/

/-- The name of the script in errors. -/
def templateName : String := "bootstrap.js.tmpl"

/-- Whether the script mentions the base name. -/
def mentionsBasename (bootstrap : Bootstrap) : Bool :=
  bootstrap.hasChromeRequires || bootstrap.hasVersionPreference

/-- The text of the script. Where it mentions the base name, the metadata has to have the section
that holds it.
-/
def script (bootstrap : Bootstrap) : Except BuildError String :=
  match bootstrap.metadata.get? "general" with
  | some general =>
      .ok (Text.join "\n" (scriptLines bootstrap ((general.get? "basename").getD "")))
  | none =>
      if mentionsBasename bootstrap then
        .error (.template templateName .undefinedError)
      else
        .ok (Text.join "\n" (scriptLines bootstrap ""))

end AddonPackager.Bootstrap
