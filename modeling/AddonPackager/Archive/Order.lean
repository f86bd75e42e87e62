/-! The order of archive members.
-/

namespace AddonPackager.Archive

/-- The member with the signature block. -/
def signatureBlockPath : String :=
  "META-INF/zigbert.rsa"

/-- Whether one path may come before another: by sort key, but the signature block last. -/
def precedes {κ : Type} (le : κ → κ → Bool) (sortKey : String → κ) (a b : String) : Bool :=
  if a = signatureBlockPath then b = signatureBlockPath
  else b = signatureBlockPath || le (sortKey a) (sortKey b)

/-- Paths in archive order. Paths that no key tells apart keep their order. -/
def order {κ : Type} (le : κ → κ → Bool) (sortKey : String → κ) (paths : List String)
    : List String :=
  paths.mergeSort (precedes le sortKey)

def textLe (a b : String) : Bool :=
  a ≤ b

end AddonPackager.Archive
