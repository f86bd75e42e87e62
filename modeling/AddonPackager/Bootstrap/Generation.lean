import AddonPackager.Bootstrap.ModuleLibrary
import AddonPackager.Bootstrap.Script

/-! Generating the start script of a package that brings none.
-/

namespace AddonPackager.Bootstrap

/-- Adds the start script and the modules it needs. A package with a start script stays as it
is.
-/
def addMissing (tree : FileTree) (params : BuildParams) (package : Package)
    : Except Package.Failure Package :=
  if package.contains archivePath then
    .ok package
  else
    match (ofParams params).inspect package with
    | .error cause => .error ⟨cause, package⟩
    | .ok found =>
        let (bootstrap, package) :=
          resolveModules tree params.config.moduleLibrary found package
        match bootstrap.script with
        | .ok text => .ok (package.putText archivePath text)
        | .error cause => .error ⟨cause, package⟩

end AddonPackager.Bootstrap
