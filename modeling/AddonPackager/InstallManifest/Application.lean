import AddonPackager.Metadata.Basic
import AddonPackager.Text.Split

/-! The applications that add-ons are made for.
-/

namespace AddonPackager

/-- An application and its versions that an add-on works with. -/
structure TargetApplication where
  name : String
  id : String
  minVersion : String
  maxVersion : String
  deriving DecidableEq, Repr

namespace TargetApplication

/-- The section with the versions by application. -/
def sectionName : String := "compat"

/-- The known applications with their identifiers. -/
def known : List (String × String) := [
  ("conkeror", "\x7ba79fe89b-6662-4ff4-8e88-09950ad4dfde\x7d"),
  ("emusic", "dlm@emusic.com"),
  ("fennec", "\x7ba23983c0-fd0e-11dc-95ff-0800200c9a66\x7d"),
  ("fennec2", "\x7baa3c5121-dab2-40e2-81ca-7ea25febc110\x7d"),
  ("firefox", "\x7bec8030f7-c20a-464f-9b0e-13a3a9e97384\x7d"),
  ("midbrowser", "\x7baa5ca914-c309-495d-91cf-3141bbb04115\x7d"),
  ("prism", "prism@developer.mozilla.org"),
  ("seamonkey", "\x7b92650c4d-4b8e-4d2a-b7eb-24ecf4f6b63a\x7d"),
  ("songbird", "songbird@songbirdnest.com"),
  ("thunderbird", "\x7b3550f703-e582-4d05-9a08-453d09bdfdc6\x7d"),
  ("toolkit", "toolkit@mozilla.org"),
  ("adblockbrowser", "\x7b55aba3ac-94d3-41a8-9e25-5c21fe874539\x7d")]

def id? (name : String) : Option String :=
  Assoc.get? name known

/-- The names of the known applications by identifier. -/
def namesById : Dict String :=
  .ofList (known.map fun (name, id) => (id, name))

/-- The least and the greatest version of a range like `3.6/8.0`. -/
def versions (range : String) : String × String :=
  match Text.splitOnce '/' range.toList with
  | some (least, greatest) =>
      (String.ofList (Text.trim least), String.ofList (Text.trim greatest))
  | none => (Text.trimmed range, "")

/-- The application of an option, if it is known. -/
def ofItem? (item : MetadataItem) : Option TargetApplication :=
  (id? item.key).map fun id =>
    ⟨item.key, id, (versions item.value).1, (versions item.value).2⟩

/-- The known applications that the metadata names, in its order. -/
def ofMetadata (metadata : Metadata) : List TargetApplication :=
  (metadata.items sectionName).filterMap ofItem?

end TargetApplication

end AddonPackager
