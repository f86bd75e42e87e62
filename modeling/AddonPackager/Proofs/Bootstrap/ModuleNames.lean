import AddonPackager.Bootstrap.ModuleLibrary
import AddonPackager.Proofs.FileTree.Descending
import AddonPackager.Proofs.Locale.CatalogPaths
import AddonPackager.Proofs.Script.RequireCalls

/-! Names of modules. Scripts only ever require proper names, such a name stands for one script of
the package and one file of a module library, and both can be told from the name.
-/

namespace AddonPackager

-----------------------------------------------------------------------------------------
-- Required names
-----------------------------------------------------------------------------------------

namespace Script

variable {text : List Char} {module : String}

/-- Names that a require call can have. -/
def IsModuleName (module : String) : Prop :=
  module ≠ "" ∧ ∀ c ∈ module.toList, isModuleChar c = true

/-- Scripts require proper names only. -/
theorem isModuleName_of_mem_requires (member : module ∈ (scan text).requires)
    : IsModuleName module := by
  rw [scan, requires_eq, List.mem_map] at member
  obtain ⟨⟨position, name⟩, listed, rfl⟩ := member
  have standsThere := (@mem_callsFrom_iff text name [] position).mp listed
  obtain ⟨before, call, after, -, -, -, nonempty, inside, -⟩ := standsThere
  refine ⟨?_, ?_⟩
  · rwa [ne_eq, String.ofList_eq_empty_iff]
  · rwa [String.toList_ofList]

theorem IsModuleName.not_mem (named : IsModuleName module) : '/' ∉ module.toList := by
  intro member
  exact absurd (named.2 '/' member) (by decide)

end Script

-----------------------------------------------------------------------------------------
-- Modules of a package
-----------------------------------------------------------------------------------------

namespace Bootstrap

variable {module other : String}

theorem modulePath_inj : modulePath module = modulePath other ↔ module = other := by
  constructor
  · intro same
    have chars := congrArg String.toList same
    simp only [modulePath, String.toList_append, List.append_cancel_left_eq,
      List.append_cancel_right_eq] at chars
    exact String.toList_inj.mp chars
  · rintro rfl
    rfl

theorem toList_modulePath
    : (modulePath module).toList
      = "lib".toList ++ '/' :: (module.toList ++ '.' :: "js".toList) := by
  simp [modulePath]

/-- No module of a package is a chrome manifest, whatever its name. -/
theorem ofPath_modulePath_ne : FileKind.ofPath (modulePath module) ≠ .chromeManifest := by
  have ends : ('.' :: "js".toList) <:+ (modulePath module).toList :=
    ⟨"lib/".toList ++ module.toList, by simp [modulePath]⟩
  rcases FileKind.extension?_baseName (by decide) (by decide) ends with none | script
  · rw [FileKind.ofPath, none]
    decide
  · rw [FileKind.ofPath, script]
    decide

/-- A module of a package is a script. -/
theorem ofPath_modulePath (named : Script.IsModuleName module)
    : FileKind.ofPath (modulePath module) = .script := by
  have slashFree : '/' ∉ module.toList ++ '.' :: "js".toList := by
    simp [named.not_mem]
  have base : FileKind.baseName (modulePath module) = module.toList ++ '.' :: "js".toList := by
    rw [FileKind.baseName, toList_modulePath, List.splitOn_append_cons_self,
      List.splitOn_eq_singleton slashFree, List.getLastD_concat]
  have nonempty : module.toList ≠ [] := by
    simpa using named.1
  have extension : FileKind.extension? (module.toList ++ '.' :: "js".toList)
      = some "js".toList := by
    rw [FileKind.extension?_append (by decide), if_neg nonempty]
  rw [FileKind.ofPath, base, extension]
  decide

end Bootstrap

-----------------------------------------------------------------------------------------
-- Modules of a library
-----------------------------------------------------------------------------------------

namespace ModuleLibrary

variable {tree : FileTree} {library : DiskPath} {entries : Entries} {module fileName : String}

/-- The file of a module in a library. -/
def file? (tree : FileTree) (library : DiskPath) (module : String) : Option ByteArray :=
  tree.read? (library ++ DiskPath.mk "lib" ++ DiskPath.mk (module ++ ".js"))

theorem moduleName?_eq_some_iff
    : moduleName? fileName = some module ↔ fileName = module ++ ".js" := by
  rw [moduleName?, ← String.toList_inj, String.toList_append]
  split
  · rename_i ends
    obtain ⟨front, split⟩ := List.isSuffixOf_iff_suffix.mp ends
    have size : fileName.length - 3 = front.length := by
      rw [← String.length_toList, ← split]
      simp
    rw [size, ← split, List.take_left', Option.some.injEq, ← String.toList_inj,
      String.toList_ofList, List.append_left_inj]
    rfl
  · rename_i ends
    constructor
    · simp
    · intro split
      exact absurd (List.isSuffixOf_iff_suffix.mpr ⟨module.toList, split.symm⟩) ends

theorem get?_ofEntries_file {name : String} {content : ByteArray} {rest : Entries}
    : Assoc.get? module (ofEntries ((name, .file content) :: rest))
      = if name = module ++ ".js" then some content else Assoc.get? module (ofEntries rest) := by
  cases named : moduleName? name with
  | none =>
      have other : name ≠ module ++ ".js" := by
        intro same
        rw [moduleName?_eq_some_iff.mpr same] at named
        cases named
      simp [ofEntries, named, other]
  | some found =>
      have same : found = module ↔ name = module ++ ".js" := by
        rw [← moduleName?_eq_some_iff, named, Option.some.injEq]
      simp [ofEntries, named, Assoc.get?_cons, same]

/-- A module among the entries of a directory is what the directory holds under its file name, if
that is a file, by induction on the entries.
-/
theorem get?_ofEntries (distinct : (Assoc.names entries).Nodup)
    : Assoc.get? module (ofEntries entries)
      = match entries.get? (module ++ ".js") with
        | some (.file content) => some content
        | _ => none := by
  induction entries with
  | nil => rfl
  | cons head rest ih =>
      obtain ⟨name, node⟩ := head
      obtain ⟨fresh, restDistinct⟩ := List.nodup_cons.mp distinct
      have later := ih restDistinct
      cases node with
      | file content =>
          rw [get?_ofEntries_file, later, Entries.get?, Entries.get?, Assoc.get?_cons]
          split <;> rfl
      | directory inner =>
          have skipped : ofEntries ((name, .directory inner) :: rest) = ofEntries rest := rfl
          rw [skipped, later, Entries.get?, Entries.get?, Assoc.get?_cons]
          by_cases here : name = module ++ ".js"
          · rw [if_pos here, Assoc.get?_eq_none_iff.mpr (here ▸ fresh)]
          · rw [if_neg here]

theorem isEntryName_fileName (named : Script.IsModuleName module)
    : isEntryName (module ++ ".js") = true :=
  isEntryName_of_length (by simp [named.not_mem]) (by simp)

theorem text_append_lib_ne : (library ++ DiskPath.mk "lib").text ≠ "" := by
  by_cases nonempty : library.text = ""
  · have here : library = ⟨""⟩ := congrArg DiskPath.mk nonempty
    rw [here]
    decide
  · exact DiskPath.text_append_ne nonempty (DiskPath.isAbsolute_name (by decide))

/-- A module of a library is what its file holds. -/
theorem get?_read (named : Script.IsModuleName module)
    : Assoc.get? module (ModuleLibrary.read tree library) = file? tree library module := by
  have nonempty : (library ++ DiskPath.mk "lib").text ≠ "" := text_append_lib_ne
  have found : tree.lookup? (library ++ DiskPath.mk "lib" ++ DiskPath.mk (module ++ ".js"))
      = (tree.list? (library ++ DiskPath.mk "lib")).bind (Entries.get? (module ++ ".js")) :=
    FileTree.lookup?_append_name nonempty (isEntryName_fileName named)
  rw [ModuleLibrary.read, file?, FileTree.read?, found]
  cases listed : tree.list? (library ++ DiskPath.mk "lib") with
  | none => rfl
  | some entries =>
      obtain ⟨ascending, -, -⟩ :=
        Entries.wellFormed_iff.mp (FileTree.wellFormed_of_list? listed)
      exact get?_ofEntries ascending.nodup_names

end ModuleLibrary

end AddonPackager
