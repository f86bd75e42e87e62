import AddonPackager.Proofs.Package.Contents

/-! Offers of files one after the other. The first offer of a path is stored, every later one is a
conflict, and changes that stay away from a path keep what was stored there.
-/

namespace AddonPackager.Package

variable {package before middle after : Package} {path : String} {data : ByteArray}
  {files : List (String × ByteArray)} {warning : Warning} {warnings : List Warning}
  {seen : List String} {settled : String → Prop}

-----------------------------------------------------------------------------------------
-- Conflicts
-----------------------------------------------------------------------------------------

/-- The conflicts that a package warns about. -/
def conflicts (package : Package) : List Warning :=
  package.warnings.filter (·.kind = .conflict)

/-- The package without its other warnings. -/
def conflictsOnly (package : Package) : Package :=
  { package with warnings := package.conflicts }

theorem contains_iff : package.contains path = true ↔ ∃ data, package.get? path = some data :=
  Option.isSome_iff_exists

theorem contains_eq_false_iff : package.contains path = false ↔ package.get? path = none := by
  rw [← Bool.not_eq_true, contains_iff]
  cases package.get? path <;> simp

@[simp] theorem contains_put_self : (package.put path data).contains path = true := by
  simp [contains_iff, get?_put]

theorem contains_offer {other : String}
    : (package.offer path data).contains other = true
      ↔ other = path ∨ package.contains other = true := by
  rw [contains_iff, contains_iff, get?_offer]
  by_cases here : path = other
  · subst here
    cases package.get? path <;> simp
  · rw [if_neg here, Option.or_none]
    simp [Ne.symm here]

/-- The first offer of a path is stored. -/
theorem offer_of_absent (absent : package.get? path = none)
    : package.offer path data = package.put path data := by
  rw [offer, if_neg]
  simp [contains_iff, absent]

theorem conflicts_warnAll (noConflict : ∀ warning ∈ warnings, warning.kind ≠ .conflict)
    : (package.warnAll warnings).conflicts = package.conflicts := by
  have none : warnings.filter (·.kind = .conflict) = [] := by
    simpa [List.filter_eq_nil_iff] using noConflict
  rw [conflicts, warnAll_eq, List.filter_append, none, List.append_nil]
  rfl

theorem conflictsOnly_warn (noConflict : warning.kind ≠ .conflict)
    : (package.warn warning).conflictsOnly = package.conflictsOnly := by
  have same : (package.warnAll [warning]).conflicts = package.conflicts :=
    conflicts_warnAll (by simpa using noConflict)
  rw [conflictsOnly, show (package.warn warning).conflicts = package.conflicts from same]
  rfl

theorem conflictsOnly_offer
    : (package.offer path data).conflictsOnly = package.conflictsOnly.offer path data := by
  have same : package.conflictsOnly.contains path = package.contains path := rfl
  rw [offer, offer, same]
  split
  · simp [conflictsOnly, conflicts, warn, Warning.conflict]
  · rfl

theorem conflictsOnly_offerAll
    : (package.offerAll files).conflictsOnly = package.conflictsOnly.offerAll files := by
  induction files generalizing package with
  | nil => rfl
  | cons file rest ih =>
      rw [offerAll, List.foldl_cons, ← offerAll, ih, conflictsOnly_offer]
      rfl

/-- The paths of a list that came before, once for each time they come again. -/
def repeated (seen : List String) : List String → List String
  | [] => []
  | path :: rest =>
      (if path ∈ seen then [path] else []) ++ repeated (path :: seen) rest

/-- Of different paths, those that came before come again, by induction on the paths. -/
theorem repeated_eq_filter {paths : List String} (distinct : paths.Nodup)
    : repeated seen paths = paths.filter (· ∈ seen) := by
  induction paths generalizing seen with
  | nil => rfl
  | cons path rest ih =>
      obtain ⟨notAgain, restDistinct⟩ := List.nodup_cons.mp distinct
      have sameRest : rest.filter (· ∈ path :: seen) = rest.filter (· ∈ seen) := by
        apply List.filter_congr
        intro other member
        have different : other ≠ path := by
          rintro rfl
          exact notAgain member
        simp [different]
      rw [repeated, ih restDistinct, sameRest, List.filter_cons]
      split <;> simp_all

theorem repeated_of_nodup {paths : List String} (distinct : paths.Nodup)
    (fresh : ∀ path ∈ paths, path ∉ seen)
    : repeated seen paths = [] := by
  rw [repeated_eq_filter distinct, List.filter_eq_nil_iff]
  intro path member
  simpa using fresh path member

/-- Offers warn about exactly the paths that are taken already, by induction on the offers. -/
theorem warnings_offerAll (known : ∀ path, package.contains path = true ↔ path ∈ seen)
    : (package.offerAll files).warnings
      = package.warnings ++ (repeated seen (Assoc.names files)).map Warning.conflict := by
  induction files generalizing package seen with
  | nil => simp [offerAll, repeated]
  | cons file rest ih =>
      obtain ⟨path, data⟩ := file
      have stillKnown : ∀ other,
          (package.offer path data).contains other = true ↔ other ∈ path :: seen := by
        intro other
        rw [contains_offer, List.mem_cons, known]
      rw [offerAll, List.foldl_cons, ← offerAll, ih stillKnown, Assoc.names_cons, repeated]
      by_cases taken : path ∈ seen
      · rw [if_pos taken, offer, if_pos ((known path).mpr taken), List.singleton_append,
          List.map_cons, warn, List.append_assoc, List.singleton_append]
      · rw [if_neg taken, offer, if_neg fun stored => taken ((known path).mp stored)]
        rfl

-----------------------------------------------------------------------------------------
-- Kept files
-----------------------------------------------------------------------------------------

/-- A change that keeps all files, those under settled paths with their bytes, and adds no conflict.
-/
structure Keeps (settled : String → Prop) (before after : Package) : Prop where
  transforms : after.transforms = before.transforms
  conflicts : after.conflicts = before.conflicts
  contains : ∀ path, before.contains path = true → after.contains path = true
  get? : ∀ path, settled path → before.contains path = true → after.get? path = before.get? path

theorem Keeps.refl : Keeps settled package package :=
  ⟨rfl, rfl, fun _ => id, fun _ _ _ => rfl⟩

theorem Keeps.trans (first : Keeps settled before middle) (second : Keeps settled middle after)
    : Keeps settled before after where
  transforms := second.transforms.trans first.transforms
  conflicts := second.conflicts.trans first.conflicts
  contains path stored := second.contains path (first.contains path stored)
  get? path isSettled stored :=
    (second.get? path isSettled (first.contains path stored)).trans
      (first.get? path isSettled stored)

/-- A file may be stored where nothing was before, or under a path that is not settled. -/
theorem Keeps.put (keeps : Keeps settled before middle)
    (free : settled path → before.contains path = false)
    : Keeps settled before (middle.put path data) where
  transforms := keeps.transforms
  conflicts := keeps.conflicts
  contains other stored := by
    by_cases here : path = other
    · exact here ▸ contains_put_self
    · rw [contains_iff, get?_put_of_ne here, ← contains_iff]
      exact keeps.contains other stored
  get? other isSettled stored := by
    have different : path ≠ other := by
      rintro rfl
      rw [free isSettled] at stored
      cases stored
    rw [get?_put_of_ne different]
    exact keeps.get? other isSettled stored

/-- Files may be stored under paths that are not settled, by induction on them. -/
theorem Keeps.putAll (keeps : Keeps settled before middle)
    (free : ∀ path ∈ Assoc.names files, settled path → before.contains path = false)
    : Keeps settled before (middle.putAll files) := by
  induction files generalizing middle with
  | nil => exact keeps
  | cons file rest ih =>
      exact ih (keeps.put (free file.1 List.mem_cons_self)) fun path member =>
        free path (List.mem_cons_of_mem _ member)

theorem Keeps.warnAll (keeps : Keeps settled before middle)
    (noConflict : ∀ warning ∈ warnings, warning.kind ≠ .conflict)
    : Keeps settled before (middle.warnAll warnings) where
  transforms := transforms_warnAll.trans keeps.transforms
  conflicts := (conflicts_warnAll noConflict).trans keeps.conflicts
  contains path stored := by
    rw [contains_iff, get?_warnAll, ← contains_iff]
    exact keeps.contains path stored
  get? path isSettled stored := get?_warnAll.trans (keeps.get? path isSettled stored)

theorem Keeps.warn (keeps : Keeps settled before middle) (noConflict : warning.kind ≠ .conflict)
    : Keeps settled before (middle.warn warning) := by
  have warned : middle.warn warning = middle.warnAll [warning] := rfl
  rw [warned]
  exact keeps.warnAll (by simpa using noConflict)

/-- Steps that each keep files keep them together. -/
theorem keeps_foldl {β : Type} {step : Package → β → Package} {sources : List β}
    (each : ∀ package, ∀ source ∈ sources, Keeps settled package (step package source))
    : Keeps settled package (sources.foldl step package) :=
  List.foldlRecOn sources step .refl fun middle keeps source member =>
    keeps.trans (each middle source member)

theorem keeps_of_foldlM {β : Type} {step : Package → β → Except Failure Package}
    {sources : List β}
    (each : ∀ package changed, ∀ source ∈ sources, step package source = .ok changed →
      Keeps settled package changed)
    (done : sources.foldlM step package = .ok after)
    : Keeps settled package after :=
  invariant_of_foldlM Keeps.refl (fun middle next source member keeps stepDone =>
    keeps.trans (each middle next source member stepDone)) done

end AddonPackager.Package
