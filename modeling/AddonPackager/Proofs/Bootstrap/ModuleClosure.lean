import AddonPackager.Proofs.Bootstrap.Inspection

/-! Pulling modules out of a library. The modules that are added are exactly those that the package
needs, directly or through other added modules, and inspecting the package anew finds nothing that
was not recorded while they were added.
-/

namespace AddonPackager.Bootstrap

variable {requested requested' : String → Prop} {source? source?' : String → Option ByteArray}
  {package : Package} {module other path : String} {library : ModuleLibrary}
  {queue rest : List String} {bootstrap : Bootstrap} {content data : ByteArray}
  {added : List (String × ByteArray)}

-----------------------------------------------------------------------------------------
-- Needed modules
-----------------------------------------------------------------------------------------

/-- A module that a package lacks and a library has. -/
structure CanAdd (source? : String → Option ByteArray) (package : Package) (module : String)
    : Prop where
  absent : package.get? (modulePath module) = none
  known : (source? module).isSome = true

theorem not_canAdd_of_contains (present : package.contains (modulePath module) = true)
    : ¬ CanAdd source? package module := by
  intro canAdd
  rw [Package.contains, Dict.contains, Option.isSome_iff_ne_none] at present
  exact present canAdd.absent

theorem not_canAdd_of_unknown (unknown : source? module = none)
    : ¬ CanAdd source? package module := by
  intro canAdd
  exact absurd canAdd.known (by simp [unknown])

/-- The modules that a package needs: the least set with every module that can be added and is
requested or required by a module of the set.
-/
inductive Needed (requested : String → Prop) (source? : String → Option ByteArray)
    (package : Package) : String → Prop
  | requested {module : String} (wanted : requested module)
    (canAdd : CanAdd source? package module)
    : Needed requested source? package module
  | required {user module : String} {code : ByteArray}
    (needed : Needed requested source? package user) (source : source? user = some code)
    (wanted : module ∈ (scanFile code).requires) (canAdd : CanAdd source? package module)
    : Needed requested source? package module

theorem Needed.canAdd (needed : Needed requested source? package module)
    : CanAdd source? package module := by
  cases needed with
  | requested wanted canAdd => exact canAdd
  | required needed source wanted canAdd => exact canAdd

/-- Needed modules have proper names if the requested ones have. -/
theorem Needed.isModuleName (needed : Needed requested source? package module)
    (named : ∀ module, requested module → Script.IsModuleName module)
    : Script.IsModuleName module := by
  cases needed with
  | requested wanted canAdd => exact named _ wanted
  | required needed source wanted canAdd => exact Script.isModuleName_of_mem_requires wanted

/-- More requests and a library with the same modules leave a module needed, by induction on why
it is needed.
-/
theorem Needed.mono (needed : Needed requested source? package module)
    (named : ∀ module, requested module → Script.IsModuleName module)
    (more : ∀ module, requested module → requested' module)
    (same : ∀ module, Script.IsModuleName module → source? module = source?' module)
    : Needed requested' source?' package module := by
  have canAdd {module : String} (isName : Script.IsModuleName module)
      (canAdd : CanAdd source? package module)
      : CanAdd source?' package module :=
    ⟨canAdd.absent, same module isName ▸ canAdd.known⟩
  induction needed with
  | requested wanted free => exact .requested (more _ wanted) (canAdd (named _ wanted) free)
  | required needed source wanted free ih =>
      refine .required ih ?_ wanted (canAdd (Script.isModuleName_of_mem_requires wanted) free)
      rw [← same _ (needed.isModuleName named), source]

-----------------------------------------------------------------------------------------
-- One module of the queue
-----------------------------------------------------------------------------------------

/-- A module that cannot be added does not count among the requests. -/
theorem needed_cons_of_not_canAdd (cannot : ¬ CanAdd source? package module)
    : Needed (· ∈ module :: rest) source? package other
      ↔ Needed (· ∈ rest) source? package other := by
  constructor
  · intro needed
    induction needed with
    | requested wanted canAdd =>
        rcases List.mem_cons.mp wanted with here | later
        · exact absurd (here ▸ canAdd) cannot
        · exact .requested later canAdd
    | required needed source wanted canAdd ih => exact .required ih source wanted canAdd
  · intro needed
    induction needed with
    | requested wanted canAdd => exact .requested (List.mem_cons_of_mem _ wanted) canAdd
    | required needed source wanted canAdd ih => exact .required ih source wanted canAdd

/-- Once a module is added, exactly the other ones can still be added. -/
theorem canAdd_erase_iff
    : CanAdd (Assoc.get? · (Assoc.erase module library)) (package.put (modulePath module) content)
        other
      ↔ other ≠ module ∧ CanAdd (Assoc.get? · library) package other := by
  by_cases here : other = module
  · constructor
    · rintro ⟨-, known⟩
      simp [here, Assoc.get?_erase_self] at known
    · rintro ⟨different, -⟩
      exact absurd here different
  · have elsewhere : modulePath module ≠ modulePath other :=
      fun same => here (modulePath_inj.mp same).symm
    constructor
    · rintro ⟨absent, known⟩
      rw [Package.get?_put_of_ne elsewhere] at absent
      rw [Assoc.get?_erase_of_ne here] at known
      exact ⟨here, absent, known⟩
    · rintro ⟨-, absent, known⟩
      refine ⟨?_, ?_⟩
      · rw [Package.get?_put_of_ne elsewhere, absent]
      · rw [Assoc.get?_erase_of_ne here, known]

/-- A module that can be added is needed, and so is what it requires. -/
theorem needed_cons_iff (absent : package.get? (modulePath module) = none)
    (found : Assoc.get? module library = some content)
    : Needed (· ∈ module :: rest) (Assoc.get? · library) package other
      ↔ other = module
        ∨ Needed (· ∈ rest ++ (scanFile content).requires)
            (Assoc.get? · (Assoc.erase module library))
            (package.put (modulePath module) content) other := by
  have free : CanAdd (Assoc.get? · library) package module := ⟨absent, by simp [found]⟩
  constructor
  · intro needed
    induction needed with
    | @requested other wanted canAdd =>
        by_cases here : other = module
        · exact .inl here
        · have later : other ∈ rest := (List.mem_cons.mp wanted).resolve_left here
          exact .inr (.requested (List.mem_append_left _ later)
            (canAdd_erase_iff.mpr ⟨here, canAdd⟩))
    | @required user other code needed source wanted canAdd ih =>
        by_cases here : other = module
        · exact .inl here
        · refine .inr ?_
          have stillFree : CanAdd (Assoc.get? · (Assoc.erase module library))
              (package.put (modulePath module) content) other :=
            canAdd_erase_iff.mpr ⟨here, canAdd⟩
          rcases ih with first | later
          · subst first
            have same : code = content := Option.some.inj (source.symm.trans found)
            exact .requested (List.mem_append_right _ (same ▸ wanted)) stillFree
          · have different := (canAdd_erase_iff.mp later.canAdd).1
            refine .required later ?_ wanted stillFree
            rw [Assoc.get?_erase_of_ne different, source]
  · rintro (rfl | needed)
    · exact .requested List.mem_cons_self free
    · induction needed with
      | requested wanted canAdd =>
          have still := (canAdd_erase_iff.mp canAdd).2
          rcases List.mem_append.mp wanted with queued | required
          · exact .requested (List.mem_cons_of_mem _ queued) still
          · exact .required (.requested List.mem_cons_self free) found required still
      | required needed source wanted canAdd ih =>
          have different := (canAdd_erase_iff.mp needed.canAdd).1
          refine .required ih ?_ wanted (canAdd_erase_iff.mp canAdd).2
          rw [Assoc.get?_erase_of_ne different] at source
          exact source

/-- A module that cannot be added is passed over. -/
theorem addModules_of_not_canAdd (cannot : ¬ CanAdd (Assoc.get? · library) package module)
    : addModules library (module :: rest) bootstrap package
      = addModules library rest bootstrap package := by
  rw [addModules]
  split
  · rfl
  · rename_i absent
    split
    · rfl
    · rename_i content found
      exact absurd ⟨Option.not_isSome_iff_eq_none.mp absent, by simp [found]⟩ cannot

/-- The scan of a module as a package stores it. -/
def storedScan (package : Package) (module : String) (content : ByteArray) : Script.Scan :=
  scanFile
    (((package.offer (modulePath module) content).get? (modulePath module)).getD .empty)

/-- A module that the package lacks is stored as it is. -/
theorem storedScan_of_absent (expands : package.OnlyExpandsManifests)
    (absent : ¬ package.contains (modulePath module) = true)
    : storedScan package module content = scanFile content := by
  have added : package.offer (modulePath module) content
      = package.put (modulePath module) content :=
    if_neg absent
  rw [storedScan, added, Package.get?_put, if_pos rfl,
    expands.transformed_of_ne ofPath_modulePath_ne]
  rfl

/-- A module that can be added is added, and leaves the library. -/
theorem addModules_of_absent (absent : ¬ package.contains (modulePath module) = true)
    (found : Assoc.get? module library = some content)
    : addModules library (module :: rest) bootstrap package
      = addModules (Assoc.erase module library)
          (rest ++ (storedScan package module content).requires)
          (bootstrap.recordScan (modulePath module) (storedScan package module content))
          (package.offer (modulePath module) content) := by
  rw [addModules, if_neg absent]
  split
  · rename_i unknown
    cases found.symm.trans unknown
  · rename_i known
    cases found.symm.trans known
    rfl

-----------------------------------------------------------------------------------------
-- The whole queue
-----------------------------------------------------------------------------------------

/-- The modules that are added on request: each one once, exactly the needed ones, with what the
library holds.
-/
structure Pulls (requested : String → Prop) (source? : String → Option ByteArray)
    (package : Package) (added : ModuleLibrary) : Prop where
  distinct : (Assoc.names added).Nodup
  mem_iff : ∀ {module : String} {content : ByteArray},
    (module, content) ∈ added
      ↔ Needed requested source? package module ∧ source? module = some content

theorem Pulls.absent (pulls : Pulls requested source? package added)
    (listed : module ∈ Assoc.names added)
    : package.get? (modulePath module) = none := by
  obtain ⟨⟨_, content⟩, member, rfl⟩ := List.mem_map.mp listed
  exact (pulls.mem_iff.mp member).1.canAdd.absent

theorem Pulls.isModuleName (pulls : Pulls requested source? package added)
    (named : ∀ module, requested module → Script.IsModuleName module)
    (listed : module ∈ Assoc.names added)
    : Script.IsModuleName module := by
  obtain ⟨⟨_, content⟩, member, rfl⟩ := List.mem_map.mp listed
  exact (pulls.mem_iff.mp member).1.isModuleName named

theorem pulls_nil : Pulls (· ∈ []) source? package [] where
  distinct := .nil
  mem_iff := by
    have none : ∀ module, ¬ Needed (· ∈ []) source? package module := by
      intro module needed
      induction needed with
      | requested wanted canAdd => exact absurd wanted List.not_mem_nil
      | required needed source wanted canAdd ih => exact ih
    intro module content
    constructor
    · exact fun member => absurd member List.not_mem_nil
    · exact fun needed => absurd needed.1 (none module)

/-- A module that cannot be added changes nothing. -/
theorem Pulls.skip (pulls : Pulls (· ∈ rest) source? package added)
    (cannot : ¬ CanAdd source? package module)
    : Pulls (· ∈ module :: rest) source? package added where
  distinct := pulls.distinct
  mem_iff := by
    intro other data
    rw [pulls.mem_iff, needed_cons_of_not_canAdd cannot]

/-- A module that can be added comes first, and what it requires is asked for last. -/
theorem Pulls.add (absent : package.get? (modulePath module) = none)
    (found : Assoc.get? module library = some content)
    (pulls : Pulls (· ∈ rest ++ (scanFile content).requires)
      (Assoc.get? · (Assoc.erase module library)) (package.put (modulePath module) content) added)
    : Pulls (· ∈ module :: rest) (Assoc.get? · library) package ((module, content) :: added) where
  distinct := by
    rw [Assoc.names_cons, List.nodup_cons]
    refine ⟨?_, pulls.distinct⟩
    intro again
    obtain ⟨⟨_, data⟩, member, rfl⟩ := List.mem_map.mp again
    have source := (pulls.mem_iff.mp member).2
    rw [Assoc.get?_erase_self] at source
    cases source
  mem_iff := by
    intro other data
    rw [needed_cons_iff absent found, List.mem_cons, pulls.mem_iff, Prod.mk.injEq]
    constructor
    · rintro (⟨rfl, rfl⟩ | ⟨needed, source⟩)
      · exact ⟨.inl rfl, found⟩
      · have different := (canAdd_erase_iff.mp needed.canAdd).1
        rw [Assoc.get?_erase_of_ne different] at source
        exact ⟨.inr needed, source⟩
    · rintro ⟨rfl | needed, source⟩
      · rw [found, Option.some.injEq] at source
        exact .inl ⟨rfl, source.symm⟩
      · have different := (canAdd_erase_iff.mp needed.canAdd).1
        rw [← Assoc.get?_erase_of_ne different] at source
        exact .inr ⟨needed, source⟩

/-- The files of added modules. -/
def moduleFiles (added : ModuleLibrary) : List (String × ByteArray) :=
  added.map fun entry => (modulePath entry.1, entry.2)

/-- The scans of files recorded one after the other. -/
def recordFiles (bootstrap : Bootstrap) (files : List (String × ByteArray)) : Bootstrap :=
  files.foldl (fun bootstrap file => bootstrap.recordScan file.1 (scanFile file.2)) bootstrap

/-- Working through a queue adds the needed modules and records their scans, by induction on the
work on the queue.
-/
theorem exists_pulls (expands : package.OnlyExpandsManifests)
    : ∃ added,
        Pulls (· ∈ queue) (Assoc.get? · library) package added
        ∧ addModules library queue bootstrap package
          = (bootstrap.recordFiles (moduleFiles added), package.putAll (moduleFiles added)) := by
  induction library, queue, bootstrap, package using addModules.induct with
  | case1 library bootstrap package =>
      exact ⟨[], pulls_nil, by rw [addModules]; rfl⟩
  | case2 library bootstrap package module rest present ih =>
      have cannot : ¬ CanAdd (Assoc.get? · library) package module :=
        not_canAdd_of_contains present
      obtain ⟨added, pulls, result⟩ := ih expands
      exact ⟨added, pulls.skip cannot, (addModules_of_not_canAdd cannot).trans result⟩
  | case3 library bootstrap package module rest absent unknown ih =>
      have cannot : ¬ CanAdd (Assoc.get? · library) package module :=
        not_canAdd_of_unknown unknown
      obtain ⟨added, pulls, result⟩ := ih expands
      exact ⟨added, pulls.skip cannot, (addModules_of_not_canAdd cannot).trans result⟩
  | case4 library bootstrap package module rest absent content found _ offered scan ih =>
      have free : package.get? (modulePath module) = none :=
        Option.not_isSome_iff_eq_none.mp absent
      have put : offered = package.put (modulePath module) content := if_neg absent
      have scanned : scan = scanFile content := storedScan_of_absent expands absent
      rw [put, scanned] at ih
      obtain ⟨added, pulls, result⟩ := ih (expands.congr Package.transforms_put)
      refine ⟨(module, content) :: added, pulls.add free found, ?_⟩
      rw [addModules_of_absent absent found, storedScan_of_absent expands absent,
        show package.offer (modulePath module) content
          = package.put (modulePath module) content from put, result]
      rfl

end AddonPackager.Bootstrap
