import AddonPackager.DiskPath
import AddonPackager.Template.Fault
import AddonPackager.Text.Quoted

/-! Causes that end a build, and their wording.
-/

namespace AddonPackager

/-- Why a package cannot be signed. -/
inductive SigningFault where
  /-- The key file holds no private key that can be read. -/
  | noKey
  | noCertificate
  /-- The signature cannot be made. -/
  | refused
  deriving DecidableEq, Repr

def SigningFault.message : SigningFault → String
  | .noKey => "no private key in key file"
  | .noCertificate => "no certificate in key file"
  | .refused => "the signature cannot be made"

/-- Why an archive is not written. -/
inductive WriteFault where
  /-- The directory of the archive cannot be made. -/
  | directory (path : DiskPath)
  /-- The bytes cannot be put into the partial file. -/
  | partialFile (path : DiskPath)
  /-- The partial file cannot be moved to its place. -/
  | destination (path : DiskPath)
  deriving DecidableEq, Repr

def WriteFault.message : WriteFault → String
  | .directory path => "Failed to create " ++ path.text
  | .partialFile path => "Failed to write " ++ path.text
  | .destination path => "Failed to move archive to " ++ path.text

/-- Why a build fails. -/
inductive BuildError where
  | unreadable (path : DiskPath)
  | unlistable (path : DiskPath)
  | metadataNotFound (path : DiskPath)
  | metadataNotParsed (path : DiskPath)
  | metadataCycle (path : DiskPath)
  | missingMetadata (sectionName key : String)
  | invalidLocale (name : String)
  | contributorsUnreadable (path : DiskPath)
  | bundleUnreadable (path : DiskPath)
  | bundleNotParsed (path : DiskPath)
  | preferencesNotParsed (path : String)
  | missingTemplateTarget (path : String)
  | notText (path : String)
  | template (name : String) (fault : Template.Fault)
  | requiredFileMissing (path : String)
  | invalidArchivePath (path : String)
  | keyFileUnreadable (path : DiskPath)
  | signing (fault : SigningFault)
  | notWritten (path : DiskPath) (fault : WriteFault)
  deriving DecidableEq, Repr

def BuildError.message : BuildError → String
  | .unreadable path => "Failed to read " ++ path.text
  | .unlistable path => "Failed to list " ++ path.text
  | .metadataNotFound path => "Failed to locate metadata file " ++ path.text
  | .metadataNotParsed path => "Failed to parse metadata file " ++ path.text
  | .metadataCycle path => "Metadata file " ++ path.text ++ " inherits from itself"
  | .missingMetadata sectionName key =>
      "option " ++ key ++ " missing from metadata section [" ++ sectionName ++ "]"
  | .invalidLocale name => "invalid locale " ++ Text.quoted name ++ " requested"
  | .contributorsUnreadable path => "Failed to read contributor list " ++ path.text
  | .bundleUnreadable path => "Failed to read message bundle " ++ path.text
  | .bundleNotParsed path => "Failed to parse message bundle " ++ path.text
  | .preferencesNotParsed path => "Failed to parse " ++ path
  | .missingTemplateTarget path =>
      "cannot preprocess " ++ path ++ ": file is not part of the package"
  | .notText path => path ++ " is not valid UTF-8"
  | .template name fault => "failed to render template " ++ name ++ ": " ++ fault.message
  | .requiredFileMissing path => path ++ " is missing from the package"
  | .invalidArchivePath path => "Invalid archive path " ++ Text.quoted path
  | .keyFileUnreadable path => "Failed to read key file " ++ path.text
  | .signing fault => "signing failed: " ++ fault.message
  | .notWritten path _ => "Failed to write " ++ path.text

end AddonPackager
