import AddonPackager.FileTree.Listing
import AddonPackager.Locale.Name
import AddonPackager.Proofs.DiskPath.ArchiveNames
import AddonPackager.Proofs.Package.Offering
import AddonPackager.Proofs.Package.Walking

/-! Walks without pruning. A walk passes over a directory as a whole once the filter refuses its path.
The filter refuses every path below a refused one, so a walk finds exactly the files that are
admitted one by one, whatever the directories are on the way to them.
-/

namespace AddonPackager

variable {entries : Entries} {location above : Location} {content : ByteArray} {path : String}
  {file : String × ByteArray} {filter : PathFilter} {skip : List String}

-----------------------------------------------------------------------------------------
-- Listed files
-----------------------------------------------------------------------------------------

/-- Where the names of entries differ, a location is looked up behind the first entry, unless it
starts there.
-/
theorem Entries.at?_cons_of_ne {name next : String} {node : Node} {rest : Entries}
    (different : name ≠ next)
    : Entries.at? (next :: location) ((name, node) :: rest)
      = Entries.at? (next :: location) rest := by
  have same : Entries.get? next ((name, node) :: rest) = Entries.get? next rest := if_neg different
  cases location with
  | nil => exact same
  | cons second more => rw [Entries.at?, Entries.at?, same]

/-- What stands at a location of a directory stands there in any directory that begins with an
entry of another name.
-/
theorem Entries.WellFormed.at?_cons {entry : String × Node} {rest : Entries} {node : Node}
    (wellFormed : Entries.WellFormed (entry :: rest)) (found : rest.at? location = some node)
    : Entries.at? location (entry :: rest) = some node := by
  cases location with
  | nil => cases found
  | cons next more =>
      have listed : next ∈ Assoc.names rest := by
        rw [← Assoc.isSome_get?_iff]
        by_contra absent
        have none : rest.get? next = none := Option.not_isSome_iff_eq_none.mp absent
        cases more <;> simp [Entries.at?, none] at found
      obtain ⟨ascending, -, -⟩ := Entries.wellFormed_iff.mp wellFormed
      obtain ⟨fresh, -⟩ := List.nodup_cons.mp ascending.nodup_names
      have different : entry.1 ≠ next := by
        rintro rfl
        exact fresh listed
      rw [Entries.at?_cons_of_ne different]
      exact found

namespace FileTree

/-- A listed file stands at the location that it is listed with, by induction along the
directories.
-/
theorem exists_at?_of_mem_filesBelow (wellFormed : entries.WellFormed)
    (member : (location, content) ∈ filesBelow above entries)
    : ∃ inside, location = above ++ inside ∧ entries.at? inside = some (.file content) := by
  induction above, entries using filesBelow.induct with
  | case1 above => simp [filesBelow] at member
  | case2 above name bytes rest ih =>
      rw [filesBelow, List.mem_cons] at member
      rcases member with here | later
      · cases here
        exact ⟨[name], rfl, if_pos rfl⟩
      · obtain ⟨inside, split, found⟩ := ih wellFormed.tail later
        exact ⟨inside, split, wellFormed.at?_cons found⟩
  | case3 above name inner rest ihInner ih =>
      rw [filesBelow, List.mem_append] at member
      rcases member with deeper | later
      · obtain ⟨-, -, innerWellFormed⟩ := Entries.wellFormed_iff.mp wellFormed
        obtain ⟨inside, split, found⟩ := ihInner (innerWellFormed _ List.mem_cons_self) deeper
        refine ⟨name :: inside, by simp [split], ?_⟩
        cases inside with
        | nil => cases found
        | cons next more =>
            have directory : Entries.get? name ((name, .directory inner) :: rest)
                = some (.directory inner) := if_pos rfl
            rw [Entries.at?, directory]
            exact found
      · obtain ⟨inside, split, found⟩ := ih wellFormed.tail later
        exact ⟨inside, split, wellFormed.at?_cons found⟩

/-- The listing of a directory has exactly the files that stand somewhere in it. -/
theorem mem_filesBelow_iff (wellFormed : entries.WellFormed)
    : (location, content) ∈ filesBelow [] entries
      ↔ entries.at? location = some (.file content) := by
  constructor
  · intro member
    obtain ⟨inside, rfl, found⟩ := exists_at?_of_mem_filesBelow wellFormed member
    exact found
  · exact mem_filesBelow_of_at? []

/-- Leaving out entries leaves out the files whose location starts with one of them, by induction on
the entries.
-/
theorem filesBelow_filter (keep : String → Bool) (wellFormed : entries.WellFormed)
    : filesBelow [] (List.filter (keep ·.1) entries)
      = (filesBelow [] entries).filter (·.1.head?.all keep) := by
  induction entries with
  | nil => simp [filesBelow]
  | cons entry rest ih =>
      obtain ⟨name, node⟩ := entry
      have later := ih wellFormed.tail
      cases node with
      | file bytes =>
          cases kept : keep name <;> simp [filesBelow, kept, later]
      | directory inner =>
          obtain ⟨-, -, innerWellFormed⟩ := Entries.wellFormed_iff.mp wellFormed
          have first : ∀ file ∈ filesBelow [name] inner, file.1.head?.all keep = keep name := by
            intro file member
            obtain ⟨inside, split, -⟩ :=
              exists_at?_of_mem_filesBelow (innerWellFormed _ List.mem_cons_self) member
            simp [split]
          cases kept : keep name with
          | false =>
              rw [kept] at first
              have none : (filesBelow [name] inner).filter (·.1.head?.all keep) = [] :=
                List.filter_eq_nil_iff.mpr fun file member => by simp [first file member]
              simp [filesBelow, kept, later, none]
          | true =>
              rw [kept] at first
              have all : (filesBelow [name] inner).filter (·.1.head?.all keep)
                  = filesBelow [name] inner :=
                List.filter_eq_self.mpr first
              simp [filesBelow, kept, later, all]

end FileTree

-----------------------------------------------------------------------------------------
-- Paths below refused paths
-----------------------------------------------------------------------------------------

namespace PathFilter

/-- The segments of a path that goes on behind a slash. -/
theorem segments_of_split {front back : String}
    (split : path.toList = front.toList ++ '/' :: back.toList)
    : segments path = segments front ++ segments back :=
  DiskPath.segments_mk_append split

theorem segments_below {name : String} (nonempty : path ≠ "")
    : segments (below path name) = segments path ++ segments name := by
  apply segments_of_split
  rw [below_of_ne nonempty]
  simp

theorem segments_of_isEntryName {name : String} (proper : isEntryName name = true)
    : segments name = [name] :=
  DiskPath.segments_name proper

/-- A path is its segments with slashes between them. -/
theorem segments_inj {other : String} : segments path = segments other ↔ path = other := by
  constructor
  · intro same
    have pieces : path.toList.splitOn '/' = other.toList.splitOn '/' :=
      List.map_injective_iff.mpr (fun _ _ => String.ofList_inj.mp) same
    rw [← String.toList_inj]
    calc path.toList
      _ = ['/'].intercalate (path.toList.splitOn '/') := (List.intercalate_splitOn '/').symm
      _ = ['/'].intercalate (other.toList.splitOn '/') := by rw [pieces]
      _ = other.toList := List.intercalate_splitOn '/'
  · rintro rfl
    rfl

theorem segments_path {locale file : String}
    : segments (Locale.path locale file)
      = "chrome" :: "locale" :: (segments locale ++ segments file) := by
  have outer : (Locale.path locale file).toList
      = Locale.rootPath.toList ++ '/' :: (locale ++ "/" ++ file).toList := by
    simp [Locale.path]
  have inner : (locale ++ "/" ++ file).toList = locale.toList ++ '/' :: file.toList := by
    simp
  have root : segments Locale.rootPath = ["chrome", "locale"] := by decide
  rw [segments_of_split outer, segments_of_split inner, root]
  rfl

/-- A path below a refused path is refused, since it has all segments of that path. -/
theorem admits_of_admits_below {name : String} (nonempty : path ≠ "")
    (admits : filter.admits (below path name) = true)
    : filter.admits path = true := by
  have first : segments path ≠ [] := by
    simp [segments, List.splitOn_ne_nil]
  rw [PathFilter.admits, segments_below nonempty, List.head?_append_of_ne_nil _ first,
    List.any_append, Bool.and_eq_true, Bool.not_eq_true', Bool.or_eq_false_iff] at admits
  rw [PathFilter.admits, admits.1, admits.2.1]
  rfl

/-- The archive path of what stands at a location of a directory that is read under a path. -/
def pathOf (path : String) (location : Location) : String :=
  location.foldl below path

theorem pathOf_append {name : String}
    : pathOf path (location ++ [name]) = below (pathOf path location) name := by
  simp [pathOf]

/-- What is found in a directory has the names on the way to it as further segments, by induction on
the location.
-/
theorem segments_pathOf (nonempty : path ≠ "") (named : ∀ name ∈ location, isEntryName name = true)
    : segments (pathOf path location) = segments path ++ location := by
  induction location generalizing path with
  | nil => simp [pathOf]
  | cons name rest ih =>
      obtain ⟨proper, restNamed⟩ := List.forall_mem_cons.mp named
      have inner : segments (pathOf (below path name) rest) = segments (below path name) ++ rest :=
        ih (below_ne_empty nonempty) restNamed
      rw [segments_below nonempty, segments_of_isEntryName proper] at inner
      rw [List.append_cons]
      exact inner

/-- Whatever is admitted stands in admitted directories, by induction on the location from its end. -/
theorem admits_of_admits_pathOf (nonempty : path ≠ "")
    (admits : filter.admits (pathOf path location) = true)
    : filter.admits path = true := by
  induction location generalizing path with
  | nil => exact admits
  | cons name rest ih =>
      have inner : filter.admits (below path name) = true := ih (below_ne_empty nonempty) admits
      exact admits_of_admits_below nonempty inner

-----------------------------------------------------------------------------------------
-- Walks
-----------------------------------------------------------------------------------------

/-- The files of a directory, read under a path, that are outside of skipped entries and have an
admitted path. Nothing is asked of the directories on the way.
-/
def flatFiles (filter : PathFilter) (path : String) (skip : List String) (entries : Entries)
    : List (String × ByteArray) :=
  (((FileTree.filesBelow [] entries).filter (·.1.head?.all (!skip.contains ·))).map
    fun file => (pathOf path file.1, file.2)).filter (filter.admits ·.1)

theorem mem_flatFiles_iff (wellFormed : entries.WellFormed)
    : file ∈ filter.flatFiles path skip entries
      ↔ ∃ location,
          entries.at? location = some (.file file.2)
          ∧ (∀ first ∈ location.head?, first ∉ skip)
          ∧ file.1 = pathOf path location
          ∧ filter.admits file.1 = true := by
  obtain ⟨name, content⟩ := file
  simp only [flatFiles, List.mem_filter, List.mem_map]
  constructor
  · rintro ⟨⟨⟨location, bytes⟩, ⟨listed, outside⟩, same⟩, admits⟩
    cases same
    refine ⟨location, (FileTree.mem_filesBelow_iff wellFormed).mp listed, ?_, rfl, admits⟩
    simpa [Option.all_eq_true] using outside
  · rintro ⟨location, found, outside, rfl, admits⟩
    refine ⟨⟨(location, content), ⟨(FileTree.mem_filesBelow_iff wellFormed).mpr found, ?_⟩, rfl⟩, admits⟩
    simpa [Option.all_eq_true] using outside

/-- In a directory that is read under a path, the segments of what follows the path are a location. -/
theorem mem_flatFiles_below_iff {name : String} (wellFormed : entries.WellFormed)
    (nonempty : path ≠ "")
    : (path ++ "/" ++ name, content) ∈ filter.flatFiles path [] entries
      ↔ entries.at? (segments name) = some (.file content)
        ∧ filter.admits (path ++ "/" ++ name) = true := by
  have whole : segments (path ++ "/" ++ name) = segments path ++ segments name :=
    segments_of_split (by simp)
  rw [mem_flatFiles_iff wellFormed]
  constructor
  · rintro ⟨location, found, -, here, admits⟩
    have split := segments_pathOf nonempty (wellFormed.isEntryName_of_at? found)
    rw [← here, whole, List.append_cancel_left_eq] at split
    exact ⟨split ▸ found, admits⟩
  · rintro ⟨found, admits⟩
    have split := segments_pathOf nonempty (wellFormed.isEntryName_of_at? found)
    exact ⟨_, found, by simp, segments_inj.mp (whole.trans split.symm), admits⟩

/-- A walk finds the files that are admitted one by one, by induction along the directories. A file
in a refused directory is refused itself, so nothing is lost where the walk passes over it.
-/
theorem admitted_eq_filter (wellFormed : entries.WellFormed)
    : filter.admitted (pathOf path above) entries
      = ((FileTree.filesBelow above entries).map
          fun file => (pathOf path file.1, file.2)).filter (filter.admits ·.1) := by
  induction above, entries using FileTree.filesBelow.induct with
  | case1 above => simp [admitted, FileTree.filesBelow]
  | case2 above name bytes rest ih =>
      rw [admitted, FileTree.filesBelow, List.map_cons, List.filter_cons, pathOf_append,
        ih wellFormed.tail]
      split <;> rfl
  | case3 above name inner rest ihInner ih =>
      obtain ⟨-, named, innerWellFormed⟩ := Entries.wellFormed_iff.mp wellFormed
      have walkInner := ihInner (innerWellFormed _ List.mem_cons_self)
      rw [pathOf_append] at walkInner
      rw [admitted, FileTree.filesBelow, List.map_append, List.filter_append, ih wellFormed.tail]
      split
      · rw [walkInner]
      · rename_i refused
        have nonempty : name ≠ "" := by
          rintro rfl
          exact absurd (named _ List.mem_cons_self) (by simp [isEntryName])
        congr 1
        symm
        rw [List.filter_eq_nil_iff]
        intro file listed admits
        obtain ⟨⟨location, bytes⟩, member, rfl⟩ := List.mem_map.mp listed
        obtain ⟨inside, rfl, -⟩ := FileTree.exists_at?_of_mem_filesBelow
          (innerWellFormed _ List.mem_cons_self) member
        have whole : pathOf path (above ++ [name] ++ inside)
            = pathOf (below (pathOf path above) name) inside := by
          simp [pathOf]
        rw [whole] at admits
        exact refused (admits_of_admits_pathOf (below_ne_empty_of_name nonempty) admits)

/-- What reading a directory offers are its files that are admitted one by one. -/
theorem sourceFiles_eq_flatFiles {tree : FileTree} {source : DiskPath}
    (listed : tree.list? source = some entries)
    : filter.sourceFiles tree source path skip = filter.flatFiles path skip entries := by
  have wellFormed := FileTree.wellFormed_of_list? listed
  have kept : FileTree.filesBelow [] (entries.filter fun entry => !skip.contains entry.1)
      = (FileTree.filesBelow [] entries).filter (·.1.head?.all (!skip.contains ·)) :=
    FileTree.filesBelow_filter (!skip.contains ·) wellFormed
  have walk : filter.admitted (pathOf path []) (entries.filter fun entry => !skip.contains entry.1)
      = ((FileTree.filesBelow [] (entries.filter fun entry => !skip.contains entry.1)).map
          fun file => (pathOf path file.1, file.2)).filter (filter.admits ·.1) :=
    admitted_eq_filter wellFormed.filter
  rw [sourceFiles, FileTree.lookup?_of_list? listed, flatFiles, ← kept]
  exact walk

end PathFilter

-----------------------------------------------------------------------------------------
-- Reading directories
-----------------------------------------------------------------------------------------

namespace Package

/-- Files with different paths are taken into a package: those with a new path are stored, those
with a path that is taken are a conflict each, and nothing else changes.
-/
structure Admits (files : List (String × ByteArray)) (before after : Package) : Prop where
  once : (Assoc.names files).Nodup
  filter : after.filter = before.filter
  transforms : after.transforms = before.transforms
  stored
    : ∀ file ∈ files,
        before.contains file.1 = false →
        after.get? file.1 = some (before.transformed file.1 file.2)
  kept
    : ∀ path,
        before.contains path = true ∨ path ∉ Assoc.names files →
        after.get? path = before.get? path
  warnings
    : after.warnings
      = before.warnings ++ ((Assoc.names files).filter before.contains).map Warning.conflict

/-- Offers with different paths are taken in. -/
theorem admits_offerAll {package : Package} {files : List (String × ByteArray)}
    (distinct : (Assoc.names files).Nodup)
    : Admits files package (package.offerAll files) where
  once := distinct
  filter := filter_offerAll
  transforms := transforms_offerAll
  stored file member absent := by
    rw [get?_offerAll, contains_eq_false_iff.mp absent, Option.none_or,
      Assoc.get?_of_mem distinct member]
    rfl
  kept path unaffected := by
    rw [get?_offerAll]
    rcases unaffected with stored | unlisted
    · obtain ⟨data, found⟩ := contains_iff.mp stored
      rw [found, Option.some_or]
    · rw [Assoc.get?_eq_none_iff.mpr unlisted, Option.map_none, Option.or_none]
  warnings := by
    have known : ∀ path, package.contains path = true ↔ path ∈ package.paths :=
      fun path => Dict.mem_keys_iff.symm
    have taken : (Assoc.names files).filter (· ∈ package.paths)
        = (Assoc.names files).filter package.contains := by
      apply List.filter_congr
      intro path _
      rw [Bool.eq_iff_iff, decide_eq_true_iff, known]
    rw [warnings_offerAll known, repeated_eq_filter distinct, taken]

/-- Reading a directory admits exactly its files that are outside of skipped entries and have an
admitted path of their own. Where a walk passes over a directory, there are none of them.
-/
theorem admits_flatFiles_read {package : Package} {tree : FileTree} {source : DiskPath}
    (listed : tree.list? source = some entries)
    : (∀ file,
        file ∈ package.filter.flatFiles path skip entries
        ↔ ∃ location,
            entries.at? location = some (.file file.2)
            ∧ (∀ first ∈ location.head?, first ∉ skip)
            ∧ file.1 = PathFilter.pathOf path location
            ∧ package.filter.admits file.1 = true)
      ∧ ∃ changed,
          package.read tree source path skip = .ok changed
          ∧ Admits (package.filter.flatFiles path skip entries) package changed := by
  refine ⟨fun file => PathFilter.mem_flatFiles_iff (FileTree.wellFormed_of_list? listed), ?_⟩
  obtain ⟨changed, done⟩ : ∃ changed, package.read tree source path skip = .ok changed := by
    rw [read, FileTree.lookup?_of_list? listed]
    exact ⟨_, rfl⟩
  refine ⟨changed, done, ?_⟩
  rw [eq_offerAll_of_read done, ← PathFilter.sourceFiles_eq_flatFiles listed]
  exact admits_offerAll PathFilter.nodup_names_sourceFiles

def walkedLibrary : Entries :=
  Entries.set "main.js" (.file "disk".toUTF8) (Entries.set "util.js" (.file "util".toUTF8) [])

/-- A directory with files to admit, to skip and to refuse. -/
def walkedDirectory : Entries :=
  Entries.set "chrome" (.directory walkedLibrary)
    (Entries.set "docs" (.directory walkedLibrary)
      (Entries.set "lib" (.directory walkedLibrary) []))

theorem wellFormed_walkedDirectory : walkedDirectory.WellFormed := by
  have library : walkedLibrary.WellFormed :=
    (Entries.wellFormed_nil.set (by decide) (.file _)).set (by decide) (.file _)
  exact ((Entries.wellFormed_nil.set (by decide) library).set (by decide) library).set (by decide)
    library

def walkedTree : FileTree :=
  ⟨walkedDirectory, wellFormed_walkedDirectory⟩

/-- A package that has one of the files already. -/
def mappedPackage : Package :=
  (Package.empty ⟨["chrome", "lib"], []⟩).putText "lib/main.js" "mapped"

/-- The file that is there already is a conflict, the other one beside it is stored. -/
theorem admits_flatFiles_read_mapped
    : walkedTree.list? ⟨"."⟩ = some walkedDirectory
      ∧ ∃ changed,
          mappedPackage.read walkedTree ⟨"."⟩ "" ["chrome"] = .ok changed
          ∧ changed.get? "lib/main.js" = some "mapped".toUTF8
          ∧ changed.get? "lib/util.js" = some "util".toUTF8
          ∧ changed.get? "docs/main.js" = none
          ∧ changed.warnings = [.conflict "lib/main.js"] := by
  have listed : walkedTree.list? ⟨"."⟩ = some walkedDirectory := rfl
  have files : mappedPackage.filter.flatFiles "" ["chrome"] walkedDirectory
      = [("lib/main.js", "disk".toUTF8), ("lib/util.js", "util".toUTF8)] := by
    decide +kernel
  obtain ⟨-, changed, done, admits⟩ := admits_flatFiles_read listed
  rw [files] at admits
  refine ⟨listed, changed, done, ?_, ?_, ?_, ?_⟩
  · exact admits.kept "lib/main.js" (.inl (by decide))
  · exact admits.stored ("lib/util.js", "util".toUTF8) (by simp) (by decide)
  · exact admits.kept "docs/main.js" (.inr (by decide))
  · exact admits.warnings

end Package

end AddonPackager
