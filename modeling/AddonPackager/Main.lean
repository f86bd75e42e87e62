import AddonPackager.CommandLine.Basic

/-! The program. The files of the working directory that it may read are named on standard input,
one in a line; it runs the command line on them and writes the files that are new or changed.
-/

namespace AddonPackager.Program

/-- A tree with one more file or directory; the name of a directory ends in a slash. -/
def listed (tree : FileTree) (path : DiskPath) (content : ByteArray) : FileTree :=
  if Text.endsWith path.text "/" then
    (tree.makeDirectories? path).getD tree
  else
    let above := if path.directory.text = "" then tree
      else (tree.makeDirectories? path.directory).getD tree
    (above.write? path content).getD above

/-- Reads the files that are named on the input. -/
partial def load (input : IO.FS.Stream) (tree : FileTree) : IO FileTree := do
  let line ← input.getLine
  if line = "" then
    return tree
  let name := String.ofList (Text.dropReturn (line.toList.filter (· != '\n')))
  let content ← if Text.endsWith name "/" then pure .empty else IO.FS.readBinFile name
  load input (listed tree ⟨name⟩ content)

/-- Writes the files of a tree that another tree does not have like that. -/
def save (before after : FileTree) : IO Unit := do
  for (location, content) in after.files do
    let same := match before.node? location with
      | some (.file old) => old == content
      | _ => false
    if !same then
      if location.length > 1 then
        IO.FS.createDirAll (Text.join "/" location.dropLast)
      IO.FS.writeBinFile (Text.join "/" location) content

/-- No means of making signature blocks. -/
def signer : Signature.Signer :=
  ⟨fun _ _ => none⟩

def run (arguments : List String) : IO UInt32 := do
  let before ← load (← IO.getStdin) FileTree.empty
  let outcome := CommandLine.run signer before arguments .absent
  save before outcome.tree
  IO.print outcome.output
  IO.eprint outcome.report
  return outcome.exitCode.toUInt32

end AddonPackager.Program

def main (arguments : List String) : IO UInt32 :=
  AddonPackager.Program.run arguments
