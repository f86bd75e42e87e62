import AddonPackager.Build.Output
import AddonPackager.CommandLine.Arguments

/-! The command line as a function: from arguments and a file tree to what is printed and the file
tree afterwards.
-/

namespace AddonPackager.CommandLine

/-- What a run of the program comes to. -/
structure Outcome where
  exitCode : UInt8
  /-- What is printed. -/
  output : String
  /-- What is reported beside it. -/
  report : String
  tree : FileTree

/-- The name and version of the program. -/
def versionText : String := "geckopack 0.1.0\n"

def usageText : String :=
  "Usage: geckopack [-v] build [DIRECTORY] [-t TYPE] [-l LOCALES] [-b NUMBER] [-r] [-k FILE]"
    ++ " [--multicompartment] [--module-library DIRECTORY] [-o FILE]\n"
    ++ "       geckopack [-v] install [DIRECTORY] [OPTION]... [--host HOST] [--port PORT]\n"

def summary (output : BuildOutput) : String :=
  let warnings :=
    if output.warnings.isEmpty then
      ""
    else
      "  - Warnings: " ++ toString output.warnings.length ++ " (reported above)\n"
  "✅ Build completed successfully!\n\n📦 Summary:\n  - Version: " ++ output.version
    ++ "\n  - Files: " ++ toString output.fileCount ++ "\n  - Output: " ++ output.path.text
    ++ "\n" ++ warnings

def warningReport (warnings : List Warning) : String :=
  String.join (warnings.map fun warning => "WARN " ++ warning.text ++ "\n")

def failed (headline message : String) (tree : FileTree) : Outcome :=
  ⟨1, "", "❌ " ++ headline ++ "\nError: " ++ message ++ "\n", tree⟩

def build (signer : Signature.Signer) (tree : FileTree) (config : BuildConfig)
    (control : VersionControl) : Outcome :=
  match Build.create signer tree config control with
  | .ok output => ⟨0, summary output, warningReport output.warnings, output.tree⟩
  | .error failure => failed "Build failed!" failure.cause.message failure.tree

/-- Builds an archive in memory. There is no network to send it through. -/
def install (signer : Signature.Signer) (tree : FileTree) (config : BuildConfig)
    (control : VersionControl) (host : String) (port : Nat) : Outcome :=
  match Build.toArchive signer tree config control with
  | .ok _ =>
      failed "Install failed!"
        ("Failed to send build to http://" ++ host ++ ":" ++ toString port ++ "/") tree
  | .error cause => failed "Install failed!" cause.message tree

def run (signer : Signature.Signer) (tree : FileTree) (arguments : List String)
    (control : VersionControl := .absent) : Outcome :=
  match readLine .empty arguments with
  | .error error => ⟨2, "", "error: " ++ error.message ++ "\n" ++ usageText, tree⟩
  | .ok .version => ⟨0, versionText, "", tree⟩
  | .ok .help => ⟨0, usageText, "", tree⟩
  | .ok (.build config) => build signer tree config control
  | .ok (.install config host port) => install signer tree config control host port

end AddonPackager.CommandLine
