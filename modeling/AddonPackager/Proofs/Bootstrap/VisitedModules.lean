import AddonPackager.Proofs.Bootstrap.ModuleClosure
import AddonPackager.Proofs.Package.Offering

/-! Looking at each module once. The work on a queue may remember which modules it has seen, and keep
the library as it is: a module that was seen is packaged or not in the library, so it adds nothing.
-/

namespace AddonPackager.Bootstrap

variable {library left : ModuleLibrary} {visited queue queue' rest : List String}
  {module other : String} {content : ByteArray} {bootstrap : Bootstrap} {package : Package}

-----------------------------------------------------------------------------------------
-- Work with a memory
-----------------------------------------------------------------------------------------

/-- The modules of a library that have not been looked at. -/
def unvisited (library : ModuleLibrary) (visited : List String) : ModuleLibrary :=
  library.filter (·.1 ∉ visited)

theorem unvisited_cons
    : unvisited library (module :: visited) = Assoc.erase module (unvisited library visited) := by
  rw [unvisited, unvisited, Assoc.erase, List.filter_filter]
  refine List.filter_congr fun entry _ => ?_
  rw [Bool.eq_iff_iff]
  simp

theorem length_unvisited_cons_le
    : (unvisited library (module :: visited)).length ≤ (unvisited library visited).length := by
  rw [unvisited_cons]
  exact List.length_filter_le _ _

theorem length_unvisited_cons_lt (new : module ∉ visited)
    (found : Assoc.get? module library = some content)
    : (unvisited library (module :: visited)).length < (unvisited library visited).length := by
  have still : Assoc.get? module (unvisited library visited) = some content := by
    rw [unvisited, Assoc.get?_filter fun _ => by simp [new], found]
  rw [unvisited_cons]
  exact Assoc.length_erase_lt still

/-- Works through a list of required modules and looks at each one once. The library stays as it
is, and what has been looked at is not asked for again.
-/
def addUnvisited (library : ModuleLibrary) (visited queue : List String) (bootstrap : Bootstrap)
    (package : Package) : Bootstrap × Package :=
  match queue with
  | [] => (bootstrap, package)
  | module :: rest =>
      if seen : module ∈ visited then
        addUnvisited library visited rest bootstrap package
      else if package.contains (modulePath module) then
        addUnvisited library (module :: visited) rest bootstrap package
      else
        match found : Assoc.get? module library with
        | none => addUnvisited library (module :: visited) rest bootstrap package
        | some content =>
            have := length_unvisited_cons_lt seen found
            addUnvisited library (module :: visited)
              (rest ++ (storedScan package module content).requires.filter
                (· ∉ module :: visited))
              (bootstrap.recordScan (modulePath module) (storedScan package module content))
              (package.offer (modulePath module) content)
termination_by ((unvisited library visited).length, queue.length)
decreasing_by
  · exact Prod.Lex.right _ (Nat.lt_succ_self _)
  · exact Prod.Lex.right' _ length_unvisited_cons_le (Nat.lt_succ_self _)
  · exact Prod.Lex.right' _ length_unvisited_cons_le (Nat.lt_succ_self _)
  · exact Prod.Lex.left _ _ this

-----------------------------------------------------------------------------------------
-- Skipped modules
-----------------------------------------------------------------------------------------

/-- Modules at the front of a queue that cannot be added are passed over, by induction on them. -/
theorem addModules_append_of_not_canAdd {skipped : List String}
    (cannot : ∀ module ∈ skipped, ¬ CanAdd (Assoc.get? · library) package module)
    : addModules library (skipped ++ queue) bootstrap package
      = addModules library queue bootstrap package := by
  induction skipped with
  | nil => rfl
  | cons module rest ih =>
      rw [List.forall_mem_cons] at cannot
      rw [List.cons_append, addModules_of_not_canAdd cannot.1, ih cannot.2]

-----------------------------------------------------------------------------------------
-- Both kinds of work
-----------------------------------------------------------------------------------------

/-- How far the work is: nothing that was looked at can be added, and what is left of the library
has all modules that are not packaged.
-/
structure IsAlong (library left : ModuleLibrary) (visited : List String) (package : Package)
    : Prop where
  done : ∀ module ∈ visited, ¬ CanAdd (Assoc.get? · left) package module
  left_eq : ∀ module,
    package.get? (modulePath module) = none → Assoc.get? module left = Assoc.get? module library

theorem isAlong_nil : IsAlong library library [] package where
  done _ seen := absurd seen List.not_mem_nil
  left_eq _ _ := rfl

theorem IsAlong.visit (along : IsAlong library left visited package)
    (cannot : ¬ CanAdd (Assoc.get? · left) package module)
    : IsAlong library left (module :: visited) package where
  done := List.forall_mem_cons.mpr ⟨cannot, along.done⟩
  left_eq := along.left_eq

theorem IsAlong.add (along : IsAlong library left visited package)
    : IsAlong library (Assoc.erase module left) (module :: visited)
        (package.put (modulePath module) content) where
  done other seen canAdd := by
    obtain ⟨different, before⟩ := canAdd_erase_iff.mp canAdd
    exact along.done other ((List.mem_cons.mp seen).resolve_left different) before
  left_eq other absent := by
    rw [Package.get?_put] at absent
    split at absent
    · cases absent
    · rename_i elsewhere
      have different : other ≠ module := fun same => elsewhere (modulePath_inj.mpr same.symm)
      rw [Assoc.get?_erase_of_ne different, along.left_eq other absent]

/-- Up to the next module that has not been looked at, the queue asks for nothing. -/
theorem IsAlong.exists_next (along : IsAlong library left visited package) {others : List String}
    (next : queue.filter (· ∉ visited) = module :: others)
    : ∃ rest,
        rest.filter (· ∉ visited) = others
        ∧ addModules left queue bootstrap package
          = addModules left (module :: rest) bootstrap package := by
  obtain ⟨skipped, rest, rfl, seen, -, later⟩ := List.filter_eq_cons_iff.mp next
  refine ⟨rest, later, addModules_append_of_not_canAdd fun other member => ?_⟩
  exact along.done other (by simpa using seen other member)

theorem filter_visited_cons (same : queue.filter (· ∉ visited) = queue'.filter (· ∉ visited))
    : queue.filter (· ∉ module :: visited) = queue'.filter (· ∉ module :: visited) := by
  have split (modules : List String)
      : modules.filter (· ∉ module :: visited)
        = (modules.filter (· ∉ visited)).filter (· ≠ module) := by
    rw [List.filter_filter]
    refine List.filter_congr fun other _ => ?_
    rw [Bool.eq_iff_iff]
    simp
  rw [split, split, same]

/-- Queues that ask for the same modules, apart from those that were looked at, are worked through
alike, by induction on the work with a memory.
-/
theorem addUnvisited_eq (along : IsAlong library left visited package)
    (same : queue.filter (· ∉ visited) = queue'.filter (· ∉ visited))
    : addUnvisited library visited queue bootstrap package
      = addModules left queue' bootstrap package := by
  induction visited, queue, bootstrap, package using addUnvisited.induct library
    generalizing left queue' with
  | case1 visited bootstrap package =>
      have seen : ∀ module ∈ queue', module ∈ visited := by
        simpa [eq_comm (a := [])] using same
      have passed : addModules left (queue' ++ []) bootstrap package
          = addModules left [] bootstrap package :=
        addModules_append_of_not_canAdd fun module member =>
          along.done module (seen module member)
      rw [List.append_nil] at passed
      rw [addUnvisited, passed, addModules]
  | case2 visited bootstrap package module rest seen ih =>
      rw [List.filter_cons_of_neg (by simp [seen])] at same
      rw [addUnvisited, dif_pos seen]
      exact ih along same
  | case3 visited bootstrap package module rest new present ih =>
      rw [List.filter_cons_of_pos (by simp [new])] at same
      obtain ⟨rest', later, next⟩ := along.exists_next same.symm
      have cannot : ¬ CanAdd (Assoc.get? · left) package module := not_canAdd_of_contains present
      rw [addUnvisited, dif_neg new, if_pos present, next, addModules_of_not_canAdd cannot]
      exact ih (along.visit cannot) (filter_visited_cons later.symm)
  | case4 visited bootstrap package module rest new absent unknown ih =>
      rw [List.filter_cons_of_pos (by simp [new])] at same
      obtain ⟨rest', later, next⟩ := along.exists_next same.symm
      have cannot : ¬ CanAdd (Assoc.get? · left) package module := by
        rintro ⟨free, known⟩
        rw [along.left_eq module free, unknown] at known
        cases known
      rw [addUnvisited, dif_neg new, if_neg absent, next, addModules_of_not_canAdd cannot]
      split
      · exact ih (along.visit cannot) (filter_visited_cons later.symm)
      · rename_i found
        cases unknown.symm.trans found
  | case5 visited bootstrap package module rest new absent content found _ ih =>
      rw [List.filter_cons_of_pos (by simp [new])] at same
      obtain ⟨rest', later, next⟩ := along.exists_next same.symm
      have free : package.get? (modulePath module) = none :=
        Option.not_isSome_iff_eq_none.mp absent
      have known : Assoc.get? module left = some content := (along.left_eq module free).trans found
      have added : package.offer (modulePath module) content
          = package.put (modulePath module) content :=
        Package.offer_of_absent free
      rw [addUnvisited, dif_neg new, if_neg absent, next, addModules_of_absent absent known]
      split
      · rename_i unknown
        cases found.symm.trans unknown
      · rename_i found'
        cases found.symm.trans found'
        refine ih (added ▸ along.add) ?_
        rw [List.filter_append, List.filter_append, filter_visited_cons later.symm,
          List.filter_filter]
        simp only [Bool.and_self]

/-- Modules are resolved as if each one were looked at once and the library stayed as it is. -/
theorem resolveModules_eq_addUnvisited (tree : FileTree) (path : DiskPath)
    : resolveModules tree (some path) bootstrap package
      = addUnvisited (ModuleLibrary.read tree path) [] bootstrap.requires.keys bootstrap package :=
  (addUnvisited_eq isAlong_nil rfl).symm

end AddonPackager.Bootstrap
