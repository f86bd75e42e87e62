import AddonPackager.Bootstrap.Basic
import AddonPackager.FileTree.Tree

/-! Pulling required modules out of a module library into a package, with the modules that those
require in turn.
-/

namespace AddonPackager

/-- The modules of a library by name. -/
abbrev ModuleLibrary := List (String × ByteArray)

namespace ModuleLibrary

/-- The module that a file holds, by the name of the file. -/
def moduleName? (fileName : String) : Option String :=
  if Text.endsWith fileName ".js" then
    some (String.ofList (fileName.toList.take (fileName.length - 3)))
  else
    none

/-- The modules among the entries of a directory. -/
def ofEntries (entries : Entries) : ModuleLibrary :=
  entries.filterMap fun entry =>
    match entry with
    | (name, .file content) => (moduleName? name).map fun module => (module, content)
    | (_, .directory _) => none

/-- The library in a directory: the scripts in its subdirectory `lib`. -/
def read (tree : FileTree) (path : DiskPath) : ModuleLibrary :=
  ((tree.list? (path ++ DiskPath.mk "lib")).map ofEntries).getD []

end ModuleLibrary

namespace Bootstrap

def modulePath (module : String) : String :=
  "lib/" ++ module ++ ".js"

/-- Works through a list of required modules. A module that the package lacks and the library
has is added, and what it requires comes to the end of the list. Every added module leaves the
library, so the work ends although modules may require each other. No memory of the modules that were
looked at is needed: such a module is packaged or not in the library, so it is passed over.
-/
def addModules (library : ModuleLibrary) (queue : List String) (bootstrap : Bootstrap)
    (package : Package) : Bootstrap × Package :=
  match queue with
  | [] => (bootstrap, package)
  | module :: rest =>
      if package.contains (modulePath module) then
        addModules library rest bootstrap package
      else
        match found : Assoc.get? module library with
        | none => addModules library rest bootstrap package
        | some content =>
            have := Assoc.length_erase_lt found
            let package := package.offer (modulePath module) content
            -- The stored bytes count, which transforms may have changed.
            let scan := scanFile ((package.get? (modulePath module)).getD .empty)
            addModules (Assoc.erase module library) (rest ++ scan.requires)
              (bootstrap.recordScan (modulePath module) scan) package
termination_by (library.length, queue.length)

/-- Adds the required modules that the package lacks from the module library, if there is one. -/
def resolveModules (tree : FileTree) (library : Option DiskPath) (bootstrap : Bootstrap)
    (package : Package) : Bootstrap × Package :=
  match library with
  | none => (bootstrap, package)
  | some path =>
      addModules (ModuleLibrary.read tree path) bootstrap.requires.keys bootstrap package

end Bootstrap

end AddonPackager
