import AddonPackager.Proofs.FileTree.Shapes
import Mathlib.Data.List.Induction

/-! Changes of a tree by path. Writing and moving files touch the places that their paths name, and
making directories touches no file at all.
-/

namespace AddonPackager.FileTree

variable {tree changed before between after : FileTree} {location place next : Location}
  {name segment : String} {segments : List String} {content : ByteArray}
  {path source destination : DiskPath}

-----------------------------------------------------------------------------------------
-- Steps
-----------------------------------------------------------------------------------------

/-- Where one step leads: it needs a directory to start from, and a name also needs something that
has it.
-/
theorem step_eq_ok_iff
    : tree.step location segment = .ok next
      ↔ tree.shape? location = some .directory
        ∧ if DiskPath.isIdle segment then next = location
          else if segment = ".." then location ≠ [] ∧ next = location.dropLast
          else next = location ++ [segment] ∧ tree.shape? next ≠ none := by
  rw [shape?_eq_directory_iff, step]
  cases stands : tree.root.below? location with
  | none => simp
  | some entries =>
      simp only [Option.some.injEq, exists_eq', true_and]
      split
      · rw [Except.ok.injEq, eq_comm]
      · split
        · split
          · rename_i root
            simp [root]
          · rename_i inside
            rw [Except.ok.injEq, eq_comm]
            simp [inside]
        · have inside : tree.node? (location ++ [segment]) = entries.get? segment := by
            rw [node?_append_singleton, stands, Option.bind_some]
          cases found : entries.get? segment with
          | none =>
              rw [found] at inside
              simp only [reduceCtorEq, false_iff, not_and, ne_eq, not_not]
              rintro rfl
              rw [shape?, inside, Option.map_none]
          | some node =>
              rw [found] at inside
              simp only [Except.ok.injEq]
              constructor
              · rintro rfl
                exact ⟨rfl, by simp [shape?, inside]⟩
              · rintro ⟨rfl, -⟩
                rfl

/-- Directories stay directories. -/
def KeepsDirectories (before after : FileTree) : Prop :=
  ∀ location, before.shape? location = some .directory → after.shape? location = some .directory

/-- A path that leads to a directory still does where directories stay, by induction on the path
from its end.
-/
theorem KeepsDirectories.follow (keeps : before.KeepsDirectories after)
    (found : before.follow segments = .ok location)
    (isDirectory : before.shape? location = some .directory)
    : after.follow segments = .ok location := by
  induction segments using List.reverseRecOn generalizing location with
  | nil => exact found
  | append_singleton front segment ih =>
      rw [follow_append_singleton] at found ⊢
      obtain ⟨middle, first, last⟩ : ∃ middle,
          before.follow front = .ok middle ∧ before.step middle segment = .ok location := by
        cases first : before.follow front with
        | error fault =>
            rw [first] at found
            cases found
        | ok middle =>
            rw [first] at found
            exact ⟨middle, rfl, found⟩
      obtain ⟨middleDirectory, leads⟩ := step_eq_ok_iff.mp last
      rw [ih first middleDirectory]
      refine step_eq_ok_iff.mpr ⟨keeps middle middleDirectory, ?_⟩
      split
      · rename_i idle
        rwa [if_pos idle] at leads
      · rename_i notIdle
        rw [if_neg notIdle] at leads
        split
        · rename_i parent
          rwa [if_pos parent] at leads
        · rename_i notParent
          rw [if_neg notParent] at leads
          exact ⟨leads.1, by simp [keeps location isDirectory]⟩

-----------------------------------------------------------------------------------------
-- Places of paths
-----------------------------------------------------------------------------------------

/-- The location where a path would create an entry. -/
def place? (tree : FileTree) (path : DiskPath) : Option Location :=
  match tree.target path with
  | .ok (directory, name) => some (directory ++ [name])
  | .error _ => none

theorem target_eq_ok_iff {directory : Location}
    : tree.target path = .ok (directory, name)
      ↔ path.isAbsolute = false
        ∧ isEntryName name = true
        ∧ tree.shape? directory = some .directory
        ∧ ∃ front, path.segments = front ++ [name] ∧ tree.follow front = .ok directory := by
  rw [target]
  cases path.segments using List.reverseRecOn with
  | nil => simp
  | append_singleton front last =>
      rw [List.reverse_append, List.reverse_singleton, List.singleton_append]
      simp only [List.reverse_reverse, List.append_singleton_inj]
      split
      · rename_i refused
        simp only [reduceCtorEq, false_iff, not_and, not_exists]
        rintro relative proper - other ⟨-, rfl⟩ -
        simp [relative, proper] at refused
      · rename_i accepted
        simp only [Bool.or_eq_true, Bool.not_eq_true', not_or, Bool.not_eq_true,
          Bool.not_eq_false] at accepted
        obtain ⟨relative, proper⟩ := accepted
        cases led : tree.follow front with
        | error fault =>
            simp only [Except.bind, reduceCtorEq, false_iff]
            rintro ⟨-, -, -, other, ⟨rfl, -⟩, found⟩
            rw [led] at found
            cases found
        | ok location =>
            simp only [Except.bind]
            split
            · rename_i entries stands
              simp only [Except.ok.injEq, Prod.mk.injEq]
              constructor
              · rintro ⟨rfl, rfl⟩
                exact ⟨relative, proper, shape?_eq_directory_iff.mpr ⟨entries, stands⟩, front,
                  ⟨rfl, rfl⟩, led⟩
              · rintro ⟨-, -, -, other, ⟨rfl, rfl⟩, found⟩
                rw [led, Except.ok.injEq] at found
                exact ⟨found, rfl⟩
            · rename_i blocked
              simp only [reduceCtorEq, false_iff]
              rintro ⟨-, -, isDirectory, other, ⟨rfl, -⟩, found⟩
              rw [led, Except.ok.injEq] at found
              obtain ⟨entries, stands⟩ := shape?_eq_directory_iff.mp (found ▸ isDirectory)
              simp [blocked] at stands

/-- The empty path has no name at its end. -/
theorem text_ne_of_target {directory : Location} (aimed : tree.target path = .ok (directory, name))
    : path.text ≠ "" := by
  intro empty
  obtain ⟨-, proper, -, front, segments, -⟩ := target_eq_ok_iff.mp aimed
  have single : path.segments = [""] := by
    rw [show path = ⟨""⟩ from congrArg DiskPath.mk empty]
    decide
  rw [segments] at single
  have last : name = "" := by simpa using congrArg List.getLast? single
  rw [last] at proper
  exact absurd proper (by decide)

theorem exists_target_of_place? (placed : tree.place? path = some place)
    : ∃ directory name, tree.target path = .ok (directory, name) ∧ place = directory ++ [name] := by
  rw [place?] at placed
  split at placed
  · rename_i directory name aimed
    exact ⟨directory, name, aimed, (Option.some.inj placed).symm⟩
  · simp at placed

theorem place?_of_target {directory : Location} (aimed : tree.target path = .ok (directory, name))
    : tree.place? path = some (directory ++ [name]) := by
  rw [place?, aimed]

/-- A path has its place as long as directories stay. -/
theorem KeepsDirectories.place? (keeps : before.KeepsDirectories after)
    (placed : before.place? path = some place)
    : after.place? path = some place := by
  obtain ⟨directory, name, aimed, rfl⟩ := exists_target_of_place? placed
  obtain ⟨relative, proper, isDirectory, front, segments, led⟩ := target_eq_ok_iff.mp aimed
  exact place?_of_target (target_eq_ok_iff.mpr
    ⟨relative, proper, keeps directory isDirectory, front, segments, keeps.follow led isDirectory⟩)

/-- A path names what stands at its place. -/
theorem lookup?_of_place? (placed : tree.place? path = some place)
    : tree.lookup? path = tree.node? place := by
  obtain ⟨directory, name, aimed, rfl⟩ := exists_target_of_place? placed
  obtain ⟨relative, proper, isDirectory, front, segments, led⟩ := target_eq_ok_iff.mp aimed
  obtain ⟨entries, stands⟩ := shape?_eq_directory_iff.mp isDirectory
  rw [lookup?_eq_bind (text_ne_of_target aimed) relative, segments,
    node?_follow_append_name proper, entriesAt?, led, node?_append_singleton]

theorem read?_eq_some_iff (placed : tree.place? path = some place)
    : tree.read? path = some content ↔ tree.shape? place = some (.file content) := by
  rw [shape?_eq_file_iff, read?, lookup?_of_place? placed]
  cases tree.node? place with
  | none => simp
  | some node => cases node <;> simp

-----------------------------------------------------------------------------------------
-- Files
-----------------------------------------------------------------------------------------

/-- A change of one place where no directory stands keeps all directories. -/
theorem keepsDirectories_of_change {result : Option Shape}
    (noDirectory : before.shape? place ≠ some .directory)
    (changes : ∀ location,
      after.shape? location = if location = place then result else before.shape? location)
    : before.KeepsDirectories after := by
  intro location isDirectory
  have different : location ≠ place := by
    rintro rfl
    exact noDirectory isDirectory
  rw [changes, if_neg different, isDirectory]

/-- Moving a file to where no directory stands keeps all directories. -/
theorem keepsDirectories_of_move {left taken : Location}
    (isFile : before.shape? left = some (.file content))
    (noDirectory : before.shape? taken ≠ some .directory)
    (moves : ∀ location,
      after.shape? location
        = if location = left then none
          else if location = taken then some (.file content)
          else before.shape? location)
    : before.KeepsDirectories after := by
  intro location isDirectory
  have notLeft : location ≠ left := by
    rintro rfl
    rw [isFile] at isDirectory
    cases isDirectory
  have notTaken : location ≠ taken := by
    rintro rfl
    exact noDirectory isDirectory
  rw [moves, if_neg notLeft, if_neg notTaken, isDirectory]

/-- Writing a file changes the place of its path only. -/
theorem exists_place_of_write? (done : tree.write? path content = some changed)
    : ∃ place,
        tree.place? path = some place
        ∧ tree.shape? place ≠ some .directory
        ∧ ∀ location,
            changed.shape? location
              = if location = place then some (.file content) else tree.shape? location := by
  rw [write?] at done
  split at done
  · rename_i directory name aimed
    split at done
    · simp at done
    · rename_i noDirectory
      have free : tree.shape? (directory ++ [name]) ≠ some .directory := by
        intro isDirectory
        rw [shape?, Option.map_eq_some_iff] at isDirectory
        obtain ⟨node, found, shape⟩ := isDirectory
        cases node with
        | file old => cases shape
        | directory entries => exact noDirectory entries found
      exact ⟨_, place?_of_target aimed, free,
        fun location => shape?_put? Node.isLeaf_file free done⟩
  · simp at done

/-- Moving a file empties the place of the source and fills that of the destination. -/
theorem exists_places_of_rename? (done : tree.rename? source destination = some changed)
    : ∃ content left taken,
        tree.place? source = some left
        ∧ tree.shape? left = some (.file content)
        ∧ tree.place? destination = some taken
        ∧ tree.shape? taken ≠ some .directory
        ∧ ∀ location,
            changed.shape? location
              = if location = left then none
                else if location = taken then some (.file content)
                else tree.shape? location := by
  rw [rename?] at done
  split at done
  · rename_i content directory name readable aimed
    obtain ⟨moved, written, removed⟩ := Option.bind_eq_some_iff.mp done
    obtain ⟨taken, placed, free, writes⟩ := exists_place_of_write? written
    have left := place?_of_target aimed
    have isFile := (read?_eq_some_iff left).mp readable
    have noDirectory : moved.shape? (directory ++ [name]) ≠ some .directory := by
      rw [writes]
      split
      · simp
      · simp [isFile]
    refine ⟨content, directory ++ [name], taken, left, isFile, placed, free, ?_⟩
    intro location
    rw [shape?_remove? noDirectory removed, writes]
  · simp at done

-----------------------------------------------------------------------------------------
-- Directories
-----------------------------------------------------------------------------------------

/-- Nothing but new directories has come to a tree. -/
def OnlyAddsDirectories (before after : FileTree) : Prop :=
  ∀ location,
    after.shape? location = before.shape? location
    ∨ before.shape? location = none ∧ after.shape? location = some .directory

theorem OnlyAddsDirectories.refl : tree.OnlyAddsDirectories tree :=
  fun _ => .inl rfl

theorem OnlyAddsDirectories.trans (first : before.OnlyAddsDirectories between)
    (second : between.OnlyAddsDirectories after)
    : before.OnlyAddsDirectories after := by
  intro location
  rcases second location with same | ⟨free, made⟩
  · rw [same]
    exact first location
  · rcases first location with same | ⟨-, madeFirst⟩
    · exact .inr ⟨same ▸ free, made⟩
    · rw [madeFirst] at free
      cases free

theorem OnlyAddsDirectories.file_iff (adds : before.OnlyAddsDirectories after)
    : after.shape? location = some (.file content)
      ↔ before.shape? location = some (.file content) := by
  rcases adds location with same | ⟨free, made⟩
  · rw [same]
  · simp [free, made]

/-- Slashes at the end of a path are empty segments, by induction on their number. -/
theorem segments_append_slashes {front text : String} {count : Nat}
    (split : text.toList = front.toList ++ List.replicate count '/')
    : DiskPath.segments ⟨text⟩ = DiskPath.segments ⟨front⟩ ++ List.replicate count "" := by
  induction count generalizing text with
  | zero =>
      have same : text = front := String.toList_inj.mp (by simpa using split)
      simp [same]
  | succ count ih =>
      have shorter : (String.ofList (front.toList ++ List.replicate count '/')).toList
          = front.toList ++ List.replicate count '/' :=
        String.toList_ofList
      have longer : text.toList
          = (String.ofList (front.toList ++ List.replicate count '/')).toList
            ++ '/' :: "".toList := by
        rw [split, shorter, List.replicate_succ', List.append_assoc]
        rfl
      have ended : DiskPath.segments ⟨""⟩ = [""] := by decide
      rw [DiskPath.segments_mk_append longer, ih shorter, ended, List.append_assoc,
        ← List.replicate_succ']

/-- Empty segments behind a path never lead to something that is missing, by induction on their
number.
-/
theorem follow_append_empty {count : Nat} (found : tree.follow segments = .ok location)
    : tree.follow (segments ++ List.replicate count "") = .ok location
      ∨ tree.follow (segments ++ List.replicate count "") = .error .blocked := by
  induction count with
  | zero => exact .inl (by simpa using found)
  | succ count ih =>
      rw [List.replicate_succ', ← List.append_assoc, follow_append_singleton]
      rcases ih with there | blocked
      · rw [there]
        simp only [Except.bind, step]
        split
        · exact .inr rfl
        · exact .inl rfl
      · rw [blocked]
        exact .inr rfl

/-- A path is itself without the slashes at its end, and then those slashes. -/
theorem exists_slashes (path : DiskPath)
    : ∃ count, path.text.toList
        = path.withoutEndSlashes.text.toList ++ List.replicate count '/' := by
  have slashes : ∀ c ∈ path.text.toList.reverse.takeWhile (· == '/'), c = '/' := by
    intro c member
    simpa using List.all_eq_true.mp List.all_takeWhile c member
  refine ⟨(path.text.toList.reverse.takeWhile (· == '/')).length, ?_⟩
  rw [DiskPath.withoutEndSlashes, String.toList_ofList]
  have whole := List.takeWhile_append_dropWhile (p := (· == '/')) (l := path.text.toList.reverse)
  rw [List.eq_replicate_of_mem slashes] at whole
  have turned := congrArg List.reverse whole
  rw [List.reverse_append, List.reverse_reverse, List.reverse_replicate] at turned
  exact turned.symm

/-- A path that leads to something missing, slashes at its end apart, has an empty place. -/
theorem shape?_eq_none_of_locate (missing : tree.locate path = .error .missing)
    (placed : tree.place? path.withoutEndSlashes = some place)
    : tree.shape? place = none := by
  obtain ⟨directory, name, aimed, rfl⟩ := exists_target_of_place? placed
  obtain ⟨relative, proper, isDirectory, front, segments, led⟩ := target_eq_ok_iff.mp aimed
  by_contra present
  have reached : tree.follow (front ++ [name]) = .ok (directory ++ [name]) := by
    obtain ⟨notIdle, notParent⟩ := not_isIdle_of_isEntryName proper
    rw [follow_append_singleton, led]
    refine step_eq_ok_iff.mpr ⟨isDirectory, ?_⟩
    simp [notIdle, notParent, present]
  obtain ⟨count, slashes⟩ := exists_slashes path
  have all : path.segments = front ++ [name] ++ List.replicate count "" := by
    rw [← segments]
    exact segments_append_slashes slashes
  have nonempty : path.withoutEndSlashes.text ≠ "" := text_ne_of_target aimed
  have rooted : path.isAbsolute = false := by
    rw [← relative]
    exact DiskPath.isAbsolute_mk_append nonempty slashes
  have given : path.text ≠ "" := by
    intro empty
    rw [empty] at slashes
    exact nonempty (String.toList_eq_nil_iff.mp (List.append_eq_nil_iff.mp slashes.symm).1)
  rw [locate, rooted, Bool.or_false, if_neg (by simpa using given), all] at missing
  rcases follow_append_empty reached with there | blocked
  · rw [there] at missing
    cases missing
  · rw [blocked] at missing
    cases missing

theorem onlyAddsDirectories_of_makeDirectory (done : tree.makeDirectory path = .made changed)
    : tree.OnlyAddsDirectories changed := by
  rw [makeDirectory] at done
  split at done
  · cases done
  · cases done
  · rename_i directory name missing aimed
    have free := shape?_eq_none_of_locate missing (place?_of_target aimed)
    split at done
    · rename_i made put
      cases done
      intro location
      have noDirectory : tree.shape? (directory ++ [name]) ≠ some .directory := by
        simp [free]
      rw [shape?_put? Node.isLeaf_directory noDirectory put]
      split
      · rename_i here
        exact .inr ⟨here ▸ free, rfl⟩
      · exact .inl rfl
    · cases done
  · cases done
  · cases done

/-- Making directories along a list adds directories only, by induction on the list. -/
theorem onlyAddsDirectories_of_makeDirectoryAlong {paths : List DiskPath}
    (done : tree.makeDirectoryAlong paths = some changed)
    : tree.OnlyAddsDirectories changed := by
  induction paths generalizing changed with
  | nil => simp [makeDirectoryAlong] at done
  | cons path above ih =>
      rw [makeDirectoryAlong] at done
      split at done
      · cases done
        exact .refl
      · split at done
        · rename_i made here
          cases done
          exact onlyAddsDirectories_of_makeDirectory here
        · split at done
          · cases done
            exact .refl
          · simp at done
        · obtain ⟨upper, upperDone, rest⟩ := Option.bind_eq_some_iff.mp done
          have first := ih upperDone
          split at rest
          · rename_i made here
            cases rest
            exact first.trans (onlyAddsDirectories_of_makeDirectory here)
          · split at rest
            · cases rest
              exact first
            · simp at rest

theorem onlyAddsDirectories_of_makeDirectories? (done : tree.makeDirectories? path = some changed)
    : tree.OnlyAddsDirectories changed :=
  onlyAddsDirectories_of_makeDirectoryAlong done

-----------------------------------------------------------------------------------------
-- Unchanged files
-----------------------------------------------------------------------------------------

/-- Files are the same before and after, except for those at the places of some paths. -/
def SameFilesExcept (before after : FileTree) (paths : List DiskPath) : Prop :=
  ∀ location content,
    (∀ path ∈ paths, after.place? path ≠ some location) →
    (after.node? location = some (.file content) ↔ before.node? location = some (.file content))

theorem SameFilesExcept.refl {paths : List DiskPath} : tree.SameFilesExcept tree paths :=
  fun _ _ _ => Iff.rfl

/-- New directories change no file. -/
theorem OnlyAddsDirectories.sameFilesExcept {paths : List DiskPath}
    (adds : before.OnlyAddsDirectories after)
    : before.SameFilesExcept after paths := by
  intro location content elsewhere
  rw [← shape?_eq_file_iff, ← shape?_eq_file_iff]
  exact adds.file_iff

end AddonPackager.FileTree
