import AddonPackager.Archive.Order
import AddonPackager.FileTree.Tree
import AddonPackager.Package.Basic
import AddonPackager.Signature.KeyFile
import AddonPackager.Signature.Manifest

/-! Signing a package: the two digest lists and a block that seals the second one are added. It
comes after all other changes.
-/

namespace AddonPackager.Signature

/-- What makes a signature block from a key file and the bytes to sign. It may fail. -/
structure Signer where
  blockOf : ByteArray → ByteArray → Option ByteArray

/-- The signature block of some bytes, for a key file with a key and a certificate. -/
def block (signer : Signer) (keyData data : ByteArray) : Except SigningFault ByteArray :=
  match KeyFile.check keyData with
  | .error fault => .error fault
  | .ok () =>
      match signer.blockOf keyData data with
      | some sealed => .ok sealed
      | none => .error .refused

/-- Signs a package with a key file. -/
def sign (signer : Signer) (tree : FileTree) (keyFile : DiskPath) (package : Package)
    : Except Package.Failure Package :=
  match tree.read? keyFile with
  | none => .error ⟨.keyFileUnreadable keyFile, package⟩
  | some keyData =>
      let listed := manifest package.files
      let signed := signatureFile package.files
      match block signer keyData signed.toUTF8 with
      | .error fault => .error ⟨.signing fault, package⟩
      | .ok sealed =>
          .ok (((package.putText manifestPath listed).putText signatureFilePath signed).put
            Archive.signatureBlockPath sealed)

end AddonPackager.Signature
