import AddonPackager.Digest.Base64
import AddonPackager.Digest.Md5
import AddonPackager.Digest.Sha1
import AddonPackager.Text.Split

/-! The two digest lists of a signature: the manifest lists the digests of every file, and the
signature file the digests of every section of the manifest.
-/

namespace AddonPackager.Signature

open Digest

def manifestPath : String := "META-INF/manifest.mf"

/-- The archive path of the signature file. -/
def signatureFilePath : String := "META-INF/zigbert.sf"

def digestText (digest : List UInt8 → List UInt8) (data : ByteArray) : String :=
  String.ofList (Base64.encode (digest data.toList))

/-- The lines with the digests of some bytes. -/
def digestLines (data : ByteArray) : String :=
  "Digest-Algorithms: MD5 SHA1\nMD5-Digest: " ++ digestText Md5.digest data
    ++ "\nSHA1-Digest: " ++ digestText Sha1.digest data ++ "\n"

def nameLine (path : String) : String :=
  "Name: " ++ path ++ "\n"

/-- The section of the manifest about a file. -/
def manifestSection (path : String) (data : ByteArray) : String :=
  nameLine path ++ digestLines data

def manifestHeader : String := "Manifest-Version: 1.0\n"

/-- The first line of the signature file. -/
def signatureHeader : String := "Signature-Version: 1.0\n"

def manifest (files : List (String × ByteArray)) : String :=
  Text.join "\n" (manifestHeader :: files.map fun (path, data) => manifestSection path data)

def signatureFile (files : List (String × ByteArray)) : String :=
  Text.join "\n" ((signatureHeader ++ digestLines manifestHeader.toUTF8)
    :: files.map fun (path, data) =>
      nameLine path ++ digestLines (manifestSection path data).toUTF8)

end AddonPackager.Signature
