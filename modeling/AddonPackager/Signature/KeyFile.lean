import AddonPackager.Build.Error
import AddonPackager.Text.Search
import AddonPackager.Text.Split
import AddonPackager.Text.Trim
import AddonPackager.Text.Utf8

/-! Key files: armoured blocks of text, one with a private key and others with certificates, in
any order. What stands between the blocks does not count. A block counts by its label alone: decoding
it is left to the signer, which may refuse it, and keys under a password are left out.
-/

namespace AddonPackager.Signature.KeyFile

open Text

/-- The label of a line that starts or ends a block. -/
def boundary? (start line : List Char) : Option (List Char) := do
  let label ← stripPrefix? ("-----".toList ++ start ++ [' ']) (trimEnd line)
  let reversed ← stripPrefix? "-----".toList label.reverse
  some reversed.reverse

/-- The labels of the blocks. -/
def labels : List (List Char) → List String
  | [] => []
  | line :: rest =>
      match boundary? "BEGIN".toList line with
      | some label =>
          if rest.any fun line => boundary? "END".toList line == some label then
            String.ofList label :: labels rest
          else
            labels rest
      | none => labels rest

/-- The labels of blocks with a private key. -/
def keyLabels : List String :=
  ["PRIVATE KEY", "RSA PRIVATE KEY", "EC PRIVATE KEY", "DSA PRIVATE KEY"]

/-- The labels of blocks with a certificate. -/
def certificateLabels : List String :=
  ["CERTIFICATE", "X509 CERTIFICATE", "TRUSTED CERTIFICATE"]

/-- Checks that a key file holds a private key and a certificate; a missing key is found first. -/
def check (data : ByteArray) : Except SigningFault Unit :=
  let found := labels (lines (lossy data))
  if !found.any (keyLabels.contains ·) then .error .noKey
  else if !found.any (certificateLabels.contains ·) then .error .noCertificate
  else .ok ()

end AddonPackager.Signature.KeyFile
