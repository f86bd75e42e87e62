import AddonPackager.Proofs.Bootstrap.ModuleNames

/-! What inspecting a package finds. A script that comes to the package later adds what its own
scan finds and changes nothing else, so inspection can go on from where it was.
-/

namespace AddonPackager.Bootstrap

variable {bootstrap found : Bootstrap} {package : Package} {path other module : String}
  {scan scan' : Script.Scan} {data : ByteArray} {file : String × ByteArray}
  {files : List (String × ByteArray)}

-----------------------------------------------------------------------------------------
-- Scans
-----------------------------------------------------------------------------------------

theorem mem_requires_recordScan
    : module ∈ (bootstrap.recordScan path scan).requires.keys
      ↔ module ∈ bootstrap.requires.keys ∨ module ∈ scan.requires :=
  Dict.mem_keys_foldl_insert

/-- The order in which scans are recorded does not matter. -/
theorem recordScan_comm
    : (bootstrap.recordScan path scan).recordScan other scan'
      = (bootstrap.recordScan other scan').recordScan path scan := by
  have requires : ((bootstrap.recordScan path scan).recordScan other scan').requires
      = ((bootstrap.recordScan other scan').recordScan path scan).requires := by
    refine Dict.ext_keys fun module => ?_
    simp only [mem_requires_recordScan]
    exact or_right_comm
  rw [recordScan, recordScan, mk.injEq]
  simp only [recordScan, Bool.or_right_comm, true_and, and_true]
  exact requires

-----------------------------------------------------------------------------------------
-- Files
-----------------------------------------------------------------------------------------

/-- A script is scanned. -/
theorem inspectFile_of_script (script : FileKind.ofPath path = .script)
    : bootstrap.inspectFile (path, data) = .ok (bootstrap.recordScan path (scanFile data)) := by
  have notManifest : path ≠ chromeManifestPath := by
    rintro rfl
    exact absurd script (by decide)
  have notPreferences : path ≠ preferencesPath := by
    rintro rfl
    exact absurd script (by decide)
  simp only [inspectFile, if_neg notManifest, if_neg notPreferences, script]

/-- Recording a scan before or after looking at a file comes to the same. -/
theorem inspectFile_recordScan
    : (bootstrap.recordScan path scan).inspectFile file
      = (bootstrap.inspectFile file).map (·.recordScan path scan) := by
  obtain ⟨name, data⟩ := file
  simp only [inspectFile]
  split
  · rfl
  · split
    · cases readPreferences data <;> rfl
    · split
      · exact congrArg Except.ok recordScan_comm
      · rfl
      · rfl

theorem foldlM_inspectFile_recordScan
    : files.foldlM inspectFile (bootstrap.recordScan path scan)
      = (files.foldlM inspectFile bootstrap).map (·.recordScan path scan) := by
  induction files generalizing bootstrap with
  | nil => rfl
  | cons file rest ih =>
      rw [List.foldlM_cons, List.foldlM_cons, inspectFile_recordScan]
      cases bootstrap.inspectFile file with
      | error cause => rfl
      | ok next => exact ih

/-- What looking at one file adds to the required modules. -/
theorem mem_requires_of_inspectFile (done : bootstrap.inspectFile file = .ok found)
    : module ∈ found.requires.keys
      ↔ module ∈ bootstrap.requires.keys
        ∨ FileKind.ofPath file.1 = .script ∧ module ∈ (scanFile file.2).requires := by
  obtain ⟨name, data⟩ := file
  by_cases script : FileKind.ofPath name = .script
  · rw [inspectFile_of_script script] at done
    cases done
    simp [mem_requires_recordScan, script]
  · have same : found.requires = bootstrap.requires := by
      simp only [inspectFile] at done
      split at done
      · cases done
        rfl
      · split at done
        · obtain ⟨preferences, -, rfl⟩ := exists_of_map_eq_ok done
          rfl
        · split at done
          · contradiction
          · cases done
            rfl
          · cases done
            rfl
    simp [same, script]

/-- What looking at files one after the other adds to the required modules, by induction on the
files.
-/
theorem mem_requires_of_foldlM_inspectFile (done : files.foldlM inspectFile bootstrap = .ok found)
    : module ∈ found.requires.keys
      ↔ module ∈ bootstrap.requires.keys
        ∨ ∃ file ∈ files,
            FileKind.ofPath file.1 = .script ∧ module ∈ (scanFile file.2).requires := by
  induction files generalizing bootstrap with
  | nil =>
      cases done
      simp
  | cons file rest ih =>
      rw [List.foldlM_cons] at done
      obtain ⟨next, first, later⟩ := exists_of_bind_eq_ok done
      rw [ih later, mem_requires_of_inspectFile first]
      simp only [List.mem_cons, or_and_right, exists_or, exists_eq_left, or_assoc]

-----------------------------------------------------------------------------------------
-- Packages
-----------------------------------------------------------------------------------------

/-- A module that a script of the package requires. -/
def IsRequiredBy (package : Package) (module : String) : Prop :=
  ∃ path data,
    package.get? path = some data
    ∧ FileKind.ofPath path = .script
    ∧ module ∈ (scanFile data).requires

/-- Inspection finds the modules that scripts of the package require. -/
theorem mem_requires_of_inspect (done : bootstrap.inspect package = .ok found)
    : module ∈ found.requires.keys
      ↔ module ∈ bootstrap.requires.keys ∨ IsRequiredBy package module := by
  rw [mem_requires_of_foldlM_inspectFile done]
  refine or_congr_right ⟨?_, ?_⟩
  · rintro ⟨⟨path, data⟩, member, script, wanted⟩
    exact ⟨path, data, Dict.mem_toList_iff.mp member, script, wanted⟩
  · rintro ⟨path, data, stored, script, wanted⟩
    exact ⟨(path, data), Dict.mem_toList_iff.mpr stored, script, wanted⟩

/-- Files with one script more are inspected like those files and then the script, by induction on
them.
-/
theorem foldlM_inspectFile_place (script : FileKind.ofPath path = .script)
    (absent : Assoc.get? path files = none)
    : (Assoc.place path data files).foldlM inspectFile bootstrap
      = (files.foldlM inspectFile bootstrap).map (·.recordScan path (scanFile data)) := by
  induction files generalizing bootstrap with
  | nil =>
      rw [Assoc.place, List.foldlM_cons, inspectFile_of_script script]
      rfl
  | cons head rest ih =>
      obtain ⟨name, content⟩ := head
      rw [Assoc.get?_cons] at absent
      split at absent
      · cases absent
      · rename_i different
        rw [Assoc.place, if_neg (Ne.symm different)]
        split
        · rw [List.foldlM_cons, inspectFile_of_script script]
          exact foldlM_inspectFile_recordScan
        · rw [List.foldlM_cons, List.foldlM_cons]
          cases bootstrap.inspectFile (name, content) with
          | error cause => rfl
          | ok next => exact ih absent

/-- Inspecting a package with one script more goes on from inspecting the package. -/
theorem inspect_put (script : FileKind.ofPath path = .script) (absent : package.get? path = none)
    : bootstrap.inspect (package.put path data)
      = (bootstrap.inspect package).map
          (·.recordScan path (scanFile (package.transformed path data))) :=
  foldlM_inspectFile_place script absent

end AddonPackager.Bootstrap
