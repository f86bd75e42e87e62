import AddonPackager.Proofs.Bootstrap.ModuleClosure

/-! Resolving the required modules of a package. Whatever the scripts of the package and of the
library require from each other, the package comes out with exactly the modules it needs, and what
is known about it is what inspecting it anew would find.
-/

namespace AddonPackager.Bootstrap

variable {requested : String → Prop} {source? : String → Option ByteArray} {tree : FileTree}
  {params : BuildParams} {package : Package} {bootstrap found : Bootstrap} {library : DiskPath}
  {module path : String} {data : ByteArray} {added : ModuleLibrary}
  {files : List (String × ByteArray)}

-----------------------------------------------------------------------------------------
-- Packages with added modules
-----------------------------------------------------------------------------------------

theorem mem_moduleFiles
    : (path, data) ∈ moduleFiles added
      ↔ ∃ module, (module, data) ∈ added ∧ path = modulePath module := by
  simp only [moduleFiles, List.mem_map, Prod.mk.injEq, Prod.exists]
  constructor
  · rintro ⟨module, content, member, rfl, rfl⟩
    exact ⟨module, member, rfl⟩
  · rintro ⟨module, member, rfl⟩
    exact ⟨module, data, member, rfl, rfl⟩

theorem names_moduleFiles
    : Assoc.names (moduleFiles added) = (Assoc.names added).map modulePath := by
  simp [Assoc.names, moduleFiles]

/-- Different modules have different files. -/
theorem nodup_names_moduleFiles (distinct : (Assoc.names added).Nodup)
    : (Assoc.names (moduleFiles added)).Nodup := by
  rw [names_moduleFiles]
  exact distinct.map fun _ _ => modulePath_inj.mp

/-- A package with added modules holds the old files and the modules. -/
theorem get?_putAll_moduleFiles (expands : package.OnlyExpandsManifests)
    (pulls : Pulls requested source? package added)
    : (package.putAll (moduleFiles added)).get? path = some data
      ↔ package.get? path = some data
        ∨ ∃ module, (module, data) ∈ added ∧ path = modulePath module := by
  have backwards : (Assoc.names (moduleFiles added).reverse).Nodup := by
    rw [Assoc.names, List.map_reverse]
    exact List.nodup_reverse.mpr (nodup_names_moduleFiles pulls.distinct)
  rw [Package.get?_putAll, ← mem_moduleFiles]
  cases last : Assoc.get? path (moduleFiles added).reverse with
  | none =>
      have missing : (path, data) ∉ moduleFiles added := by
        intro member
        rw [Assoc.get?_of_mem backwards (List.mem_reverse.mpr member)] at last
        cases last
      simp [missing]
  | some content =>
      have member := List.mem_reverse.mp (Assoc.mem_of_get? last)
      obtain ⟨module, isAdded, rfl⟩ := mem_moduleFiles.mp member
      have free := (pulls.mem_iff.mp isAdded).1.canAdd.absent
      have single : (modulePath module, data) ∈ moduleFiles added ↔ content = data := by
        rw [← List.mem_reverse, ← Assoc.get?_eq_some_iff_mem, last, Option.some.injEq]
        intro first second firstMember secondMember
        have found := Assoc.get?_of_mem backwards firstMember
        rw [Assoc.get?_of_mem backwards secondMember, Option.some.injEq] at found
        exact found.symm
      rw [free, single, Option.map_some, Option.some_or, Option.some.injEq,
        expands.transformed_of_ne ofPath_modulePath_ne]
      simp

theorem mem_requires_recordFiles
    : module ∈ (bootstrap.recordFiles files).requires.keys
      ↔ module ∈ bootstrap.requires.keys ∨ ∃ file ∈ files, module ∈ (scanFile file.2).requires := by
  induction files generalizing bootstrap with
  | nil => simp [recordFiles]
  | cons file rest ih =>
      rw [recordFiles, List.foldl_cons, ← recordFiles, ih, mem_requires_recordScan]
      simp [or_assoc]

/-- Inspecting a package with added scripts goes on from inspecting the package, by induction on
the scripts.
-/
theorem inspect_putAll (expands : package.OnlyExpandsManifests)
    (scripts : ∀ path ∈ Assoc.names files, FileKind.ofPath path = .script)
    (absent : ∀ path ∈ Assoc.names files, package.get? path = none)
    (distinct : (Assoc.names files).Nodup)
    : bootstrap.inspect (package.putAll files)
      = (bootstrap.inspect package).map (·.recordFiles files) := by
  induction files generalizing package with
  | nil =>
      rw [show package.putAll [] = package from rfl]
      cases bootstrap.inspect package <;> rfl
  | cons file rest ih =>
      obtain ⟨path, data⟩ := file
      obtain ⟨fresh, restDistinct⟩ := List.nodup_cons.mp distinct
      have script := scripts path List.mem_cons_self
      have stored : package.transformed path data = data := by
        apply expands.transformed_of_ne
        rw [script]
        decide
      have first : bootstrap.inspect (package.put path data)
          = (bootstrap.inspect package).map (·.recordScan path (scanFile data)) := by
        rw [inspect_put script (absent path List.mem_cons_self), stored]
      have later : bootstrap.inspect ((package.put path data).putAll rest)
          = (bootstrap.inspect (package.put path data)).map (·.recordFiles rest) := by
        refine ih (expands.congr Package.transforms_put) ?_ ?_ restDistinct
        · exact fun other member => scripts other (List.mem_cons_of_mem _ member)
        · intro other member
          have different : path ≠ other := by
            rintro rfl
            exact fresh member
          rw [Package.get?_put_of_ne different]
          exact absent other (List.mem_cons_of_mem _ member)
      rw [show package.putAll ((path, data) :: rest) = (package.put path data).putAll rest from rfl,
        later, first]
      cases bootstrap.inspect package <;> rfl

-----------------------------------------------------------------------------------------
-- Resolved packages
-----------------------------------------------------------------------------------------

theorem mem_requires_of_inspect_ofParams (inspected : (ofParams params).inspect package = .ok found)
    : module ∈ found.requires.keys ↔ IsRequiredBy package module := by
  have none : module ∉ (ofParams params).requires.keys := List.not_mem_nil
  simp [mem_requires_of_inspect inspected, none]

theorem IsRequiredBy.isModuleName (required : IsRequiredBy package module)
    : Script.IsModuleName module := by
  obtain ⟨path, data, -, -, wanted⟩ := required
  exact Script.isModuleName_of_mem_requires wanted

/-- What is pulled out of what was read of a library is what is pulled out of the files of the
library.
-/
theorem Pulls.of_read (inspected : (ofParams params).inspect package = .ok found)
    (pulls : Pulls (· ∈ found.requires.keys) (Assoc.get? · (ModuleLibrary.read tree library))
      package added)
    : Pulls (IsRequiredBy package) (ModuleLibrary.file? tree library) package added where
  distinct := pulls.distinct
  mem_iff := by
    have required {module : String} : module ∈ found.requires.keys ↔ IsRequiredBy package module :=
      mem_requires_of_inspect_ofParams inspected
    intro module content
    rw [pulls.mem_iff]
    constructor
    · rintro ⟨needed, source⟩
      have named := needed.isModuleName fun _ wanted => (required.mp wanted).isModuleName
      refine ⟨?_, ModuleLibrary.get?_read named ▸ source⟩
      exact needed.mono (fun _ wanted => (required.mp wanted).isModuleName)
        (fun _ => required.mp) fun _ named => ModuleLibrary.get?_read named
    · rintro ⟨needed, source⟩
      have named := needed.isModuleName fun _ wanted => wanted.isModuleName
      refine ⟨?_, (ModuleLibrary.get?_read named).trans source⟩
      exact needed.mono (fun _ wanted => wanted.isModuleName)
        (fun _ => required.mpr) fun _ named => (ModuleLibrary.get?_read named).symm

/-- Resolving the modules of an inspected package adds the needed ones, each one once. -/
theorem exists_pulls_of_inspect (tree : FileTree) (library : DiskPath)
    (expands : package.OnlyExpandsManifests)
    (inspected : (ofParams params).inspect package = .ok found)
    : ∃ added,
        Pulls (IsRequiredBy package) (ModuleLibrary.file? tree library) package added
        ∧ resolveModules tree (some library) found package
          = (found.recordFiles (moduleFiles added), package.putAll (moduleFiles added)) := by
  obtain ⟨added, pulls, result⟩ := exists_pulls expands
  exact ⟨added, pulls.of_read inspected, result⟩

/-- What is required once modules are added is needed, if it can be added. -/
theorem Pulls.needed_of_mem_requires
    (pulls : Pulls (IsRequiredBy package) source? package added)
    (inspected : (ofParams params).inspect package = .ok found)
    (required : module ∈ (found.recordFiles (moduleFiles added)).requires.keys)
    (canAdd : CanAdd source? package module)
    : Needed (IsRequiredBy package) source? package module := by
  rcases mem_requires_recordFiles.mp required with atFirst | ⟨⟨path, data⟩, member, later⟩
  · exact .requested ((mem_requires_of_inspect_ofParams inspected).mp atFirst) canAdd
  · obtain ⟨user, isAdded, rfl⟩ := mem_moduleFiles.mp member
    obtain ⟨userNeeded, source⟩ := pulls.mem_iff.mp isAdded
    exact .required userNeeded source later canAdd

/-- Resolving the modules of an inspected package adds exactly the needed ones, as the library has
them, and warns about nothing. Whatever is required afterwards is packaged, unless the library does
not have it.
-/
theorem get?_resolveModules_iff (tree : FileTree) (expands : package.OnlyExpandsManifests)
    (configured : params.config.moduleLibrary = some library)
    (inspected : (ofParams params).inspect package = .ok found)
    : match resolveModules tree params.config.moduleLibrary found package with
      | (resolved, changed) =>
        (∀ path data,
          changed.get? path = some data
            ↔ package.get? path = some data
              ∨ ∃ module,
                  Needed (IsRequiredBy package) (ModuleLibrary.file? tree library) package module
                  ∧ path = modulePath module
                  ∧ ModuleLibrary.file? tree library module = some data)
        ∧ changed.warnings = package.warnings
        ∧ ∀ module ∈ resolved.requires.keys,
            changed.contains (modulePath module) = true
            ∨ ModuleLibrary.file? tree library module = none := by
  obtain ⟨added, pulls, result⟩ := exists_pulls_of_inspect tree library expands inspected
  rw [configured, result]
  have stored {path : String} {data : ByteArray}
      : (package.putAll (moduleFiles added)).get? path = some data
        ↔ package.get? path = some data
          ∨ ∃ module, (module, data) ∈ added ∧ path = modulePath module :=
    get?_putAll_moduleFiles expands pulls
  refine ⟨?_, Package.warnings_putAll, ?_⟩
  · intro path data
    rw [stored]
    simp only [pulls.mem_iff, and_assoc, and_comm (a := path = _)]
  · intro module required
    cases known : ModuleLibrary.file? tree library module with
    | none => exact .inr rfl
    | some content =>
        refine .inl (Option.isSome_iff_exists.mpr ?_)
        cases present : package.get? (modulePath module) with
        | some data => exact ⟨data, stored.mpr (.inl present)⟩
        | none =>
            have needed := pulls.needed_of_mem_requires inspected required
              ⟨present, by simp [known]⟩
            have isAdded := pulls.mem_iff.mpr ⟨needed, known⟩
            exact ⟨content, stored.mpr (.inr ⟨module, isAdded, rfl⟩)⟩

/-- A library of two modules that require each other; one of them requires a module that is not
there.
-/
def cyclicLibrary : Entries :=
  Entries.set "a.js" (.file "require(\"b\");".toUTF8)
    (Entries.set "b.js" (.file "require(\"a\"); require(\"c\");".toUTF8) [])

theorem wellFormed_cyclicLibrary : cyclicLibrary.WellFormed :=
  (Entries.wellFormed_nil.set (by decide) (.file _)).set (by decide) (.file _)

def cyclicTree : FileTree :=
  ⟨Entries.set "lib" (.directory cyclicLibrary) [],
    Entries.wellFormed_nil.set (by decide) wellFormed_cyclicLibrary⟩

/-- A package with a script that requires one of the modules. -/
def cyclicPackage : Package :=
  (Package.empty ⟨[], []⟩).put "main.js" "require(\"a\");".toUTF8

def cyclicParams : BuildParams where
  config := { BuildConfig.ofBase ⟨"."⟩ with moduleLibrary := some ⟨"."⟩ }
  locales := []
  version := "1"
  metadata := .empty
  contributors := []

theorem onlyExpandsManifests_cyclicPackage : cyclicPackage.OnlyExpandsManifests := by
  intro transform member
  exact absurd member List.not_mem_nil

theorem exists_inspect_cyclicPackage
    : ∃ found, (ofParams cyclicParams).inspect cyclicPackage = .ok found := by
  cases inspected : (ofParams cyclicParams).inspect cyclicPackage with
  | error cause =>
      have succeeds : ((ofParams cyclicParams).inspect cyclicPackage).toBool = true := by
        decide +kernel
      rw [inspected] at succeeds
      cases succeeds
  | ok found => exact ⟨found, rfl⟩

/-- Both modules of the cycle come in, and the missing one does not. -/
theorem get?_resolveModules_cyclic
    : ∃ found resolved changed,
        (ofParams cyclicParams).inspect cyclicPackage = .ok found
        ∧ resolveModules cyclicTree (some ⟨"."⟩) found cyclicPackage = (resolved, changed)
        ∧ changed.get? "lib/a.js" = some "require(\"b\");".toUTF8
        ∧ changed.get? "lib/b.js" = some "require(\"a\"); require(\"c\");".toUTF8
        ∧ changed.get? "lib/c.js" = none
        ∧ changed.warnings = [] := by
  obtain ⟨found, inspected⟩ := exists_inspect_cyclicPackage
  have configured : cyclicParams.config.moduleLibrary = some ⟨"."⟩ := rfl
  cases resolution : resolveModules cyclicTree cyclicParams.config.moduleLibrary found
      cyclicPackage with
  | mk resolved changed =>
      have exactly_needed :=
        get?_resolveModules_iff cyclicTree onlyExpandsManifests_cyclicPackage configured inspected
      rw [resolution] at exactly_needed
      obtain ⟨stored, silent, -⟩ := exactly_needed
      have first : Needed (IsRequiredBy cyclicPackage)
          (ModuleLibrary.file? cyclicTree ⟨"."⟩) cyclicPackage "a" :=
        .requested ⟨"main.js", _, rfl, by decide +kernel, by decide +kernel⟩
          ⟨by decide +kernel, by decide +kernel⟩
      have source : ModuleLibrary.file? cyclicTree ⟨"."⟩ "a" = some "require(\"b\");".toUTF8 := by
        decide +kernel
      have second : Needed (IsRequiredBy cyclicPackage)
          (ModuleLibrary.file? cyclicTree ⟨"."⟩) cyclicPackage "b" :=
        .required first source (by decide +kernel) ⟨by decide +kernel, by decide +kernel⟩
      have notPackaged : cyclicPackage.get? "lib/c.js" = none := by
        decide +kernel
      have unknown : ModuleLibrary.file? cyclicTree ⟨"."⟩ "c" = none := by
        decide +kernel
      have missing : ∀ data, changed.get? "lib/c.js" ≠ some data := by
        intro data found
        rcases (stored _ _).mp found with before | ⟨module, -, named, source⟩
        · simp [notPackaged] at before
        · have same : "c" = module := modulePath_inj.mp named
          simp [← same, unknown] at source
      exact ⟨found, resolved, changed, inspected, resolution,
        (stored _ _).mpr (.inr ⟨"a", first, by decide, source⟩),
        (stored _ _).mpr (.inr ⟨"b", second, by decide, by decide +kernel⟩),
        Option.eq_none_iff_forall_ne_some.mpr missing, silent⟩

/-- What is known once the modules are resolved is what inspecting the resolved package finds. -/
theorem inspect_resolveModules (expands : package.OnlyExpandsManifests)
    (inspected : (ofParams params).inspect package = .ok found)
    : (ofParams params).inspect
        (resolveModules tree params.config.moduleLibrary found package).2
      = .ok (resolveModules tree params.config.moduleLibrary found package).1 := by
  cases params.config.moduleLibrary with
  | none => exact inspected
  | some library =>
      obtain ⟨added, pulls, result⟩ := exists_pulls_of_inspect tree library expands inspected
      rw [result]
      refine (inspect_putAll expands ?_ ?_ (nodup_names_moduleFiles pulls.distinct)).trans ?_
      · intro path listed
        obtain ⟨module, added, rfl⟩ := List.mem_map.mp (names_moduleFiles ▸ listed)
        exact ofPath_modulePath (pulls.isModuleName (fun _ wanted => wanted.isModuleName) added)
      · intro path listed
        obtain ⟨module, added, rfl⟩ := List.mem_map.mp (names_moduleFiles ▸ listed)
        exact pulls.absent added
      · rw [inspected]
        rfl

/-- The package with the cycle is inspected anew with the same result. -/
theorem inspect_resolveModules_cyclic
    : ∃ found,
        (ofParams cyclicParams).inspect cyclicPackage = .ok found
        ∧ (ofParams cyclicParams).inspect
            (resolveModules cyclicTree (some ⟨"."⟩) found cyclicPackage).2
          = .ok (resolveModules cyclicTree (some ⟨"."⟩) found cyclicPackage).1 := by
  obtain ⟨found, inspected⟩ := exists_inspect_cyclicPackage
  exact ⟨found, inspected, inspect_resolveModules onlyExpandsManifests_cyclicPackage inspected⟩

end AddonPackager.Bootstrap
