import AddonPackager.Package.Basic
import AddonPackager.Package.FileKind
import AddonPackager.Template.Render

/-! Rendering files of a package as templates.
-/

namespace AddonPackager.Package

/-- The text of a file rendered as a template. -/
def rendered (package : Package) (params : List (String × Template.Value)) (path : String)
    : Except BuildError String :=
  match package.get? path with
  | none => .error (.missingTemplateTarget path)
  | some data =>
      match String.fromUTF8? data with
      | none => .error (.notText path)
      | some source =>
          match Template.render source (FileKind.ofPath path).autoEscape params with
          | .ok text => .ok text
          | .error fault => .error (.template path fault)

def preprocessFile (params : List (String × Template.Value)) (package : Package) (path : String)
    : Except Failure Package :=
  match package.rendered params path with
  | .ok text => .ok (package.putText path text)
  | .error cause => .error ⟨cause, package⟩

/-- Renders files in their places, one after the other. -/
def preprocess (package : Package) (params : List (String × Template.Value))
    (paths : List String) : Except Failure Package :=
  paths.foldlM (preprocessFile params) package

end AddonPackager.Package
