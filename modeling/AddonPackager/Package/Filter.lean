/-! Which archive paths belong in a package.
-/

namespace AddonPackager

/-- The top-level entries that are packaged and the segments that never are. -/
structure PathFilter where
  included : List String
  ignored : List String
  deriving DecidableEq, Repr

namespace PathFilter

/-- Top-level entries that belong in every package. -/
def packageEntries : List String :=
  ["chrome", "components", "modules", "lib", "resources", "defaults", "chrome.manifest",
    "icon.png", "icon64.png"]

/-- Segments that are never packaged, at any depth. -/
def ignoredSegments : List String :=
  [".incomplete", "meta.properties"]

def segments (path : String) : List String :=
  (path.toList.splitOn '/').map String.ofList

/-- A path is admitted if its first segment is an included entry and no segment is ignored. -/
def admits (filter : PathFilter) (path : String) : Bool :=
  (segments path).head?.any (filter.included.contains ·)
    && !(segments path).any (filter.ignored.contains ·)

end PathFilter

end AddonPackager
