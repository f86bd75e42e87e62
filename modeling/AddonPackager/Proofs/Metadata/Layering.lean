import AddonPackager.Proofs.Metadata.Definitions
import AddonPackager.Proofs.Package.Contents

/-! A metadata file is read by applying the options of every file it leads to, one after the
other: those of the inherited files depth first, each file's own options behind them.
-/

namespace AddonPackager

namespace Metadata

variable {tree : FileTree} {openFiles : List Location} {path : DiskPath} {paths : List DiskPath}
  {metadata result : Metadata} {definitions others : List Definition}

-----------------------------------------------------------------------------------------
-- Visited files
-----------------------------------------------------------------------------------------

/-- The options of a file, as definitions of that file. -/
def ownDefinitions (file : OptionFile) (source : DiskPath) : List Definition :=
  (ownOptions file).map fun (sectionName, name, value) => ⟨sectionName, name, value, source⟩

theorem applyFile_eq {file : OptionFile} {source : DiskPath}
    : metadata.applyFile file source = metadata.applyAll (ownDefinitions file source) := by
  rw [applyAll, ownDefinitions, List.foldl_map]
  rfl

/-- The definitions met by visiting files in order, where what a file inherits is visited before
its own options are.
-/
inductive Visits (tree : FileTree) : List DiskPath → List Definition → Prop
  | done : Visits tree [] []
  | file {path : DiskPath} {content : ByteArray} {file : OptionFile} {rest : List DiskPath}
      {above later : List Definition}
      (read : tree.read? path = some content)
      (parsed : OptionFile.ofBytes? content = some file)
      (inherits : Visits tree (inherited file path) above)
      (next : Visits tree rest later)
      : Visits tree (path :: rest) (above ++ ownDefinitions file path ++ later)

/-- A visit meets the same definitions every time, by induction on the visit. -/
theorem Visits.unique (visits : Visits tree paths definitions)
    (again : Visits tree paths others)
    : others = definitions := by
  induction visits generalizing others with
  | done =>
      cases again
      rfl
  | file read parsed inherits next inheritsAlike nextAlike =>
      cases again with
      | file readAgain parsedAgain inheritsAgain nextAgain =>
          cases read.symm.trans readAgain
          cases parsed.symm.trans parsedAgain
          rw [inheritsAlike inheritsAgain, nextAlike nextAgain]

/-- A file is read and visited with what it inherits. -/
theorem Visits.single {content : ByteArray} {file : OptionFile}
    (read : tree.read? path = some content) (parsed : OptionFile.ofBytes? content = some file)
    (inherits : Visits tree (inherited file path) definitions)
    : Visits tree [path] (definitions ++ ownDefinitions file path) := by
  have visits := Visits.file read parsed inherits .done
  rwa [List.append_nil] at visits

/-- Visits follow each other. -/
theorem Visits.cons (first : Visits tree [path] definitions) (next : Visits tree paths others)
    : Visits tree (path :: paths) (definitions ++ others) := by
  cases first with
  | file read parsed inherits nothing =>
      cases nothing
      rw [List.append_nil]
      exact .file read parsed inherits next

-----------------------------------------------------------------------------------------
-- Reading
-----------------------------------------------------------------------------------------

/-- Files read one after the other are visited one after the other, by induction on them. -/
theorem visits_of_foldlM {layer : DiskPath → Metadata → Except BuildError Metadata}
    (single
      : ∀ metadata path result,
          layer path metadata = .ok result →
          ∃ definitions, Visits tree [path] definitions ∧ result = metadata.applyAll definitions)
    (ran : paths.foldlM (fun metadata path => layer path metadata) metadata = .ok result)
    : ∃ definitions, Visits tree paths definitions ∧ result = metadata.applyAll definitions := by
  induction paths generalizing metadata with
  | nil =>
      cases ran
      exact ⟨[], .done, rfl⟩
  | cons path rest ih =>
      rw [List.foldlM_cons] at ran
      obtain ⟨between, layerDone, restDone⟩ := exists_of_bind_eq_ok ran
      obtain ⟨first, visitsFirst, rfl⟩ := single metadata path between layerDone
      obtain ⟨later, visitsLater, rfl⟩ := ih restDone
      exact ⟨first ++ later, visitsFirst.cons visitsLater, applyAll_append.symm⟩

/-- What reading a file adds are the definitions of a visit, by induction on the files that are
open on the way.
-/
theorem visits_of_readLayer (ran : readLayer tree openFiles path metadata = .ok result)
    : ∃ definitions, Visits tree [path] definitions ∧ result = metadata.applyAll definitions := by
  fun_induction readLayer tree openFiles path metadata generalizing result with
  | case3 openFiles path metadata location located closed content found file parsed _ ih =>
      obtain ⟨inheritance, inheritDone, rfl⟩ := exists_of_map_eq_ok ran
      obtain ⟨above, visitsAbove, rfl⟩ :=
        visits_of_foldlM (fun metadata parent result => ih metadata parent) inheritDone
      have read : tree.read? path = some content := by
        simp [FileTree.read?, FileTree.lookup?, located, found]
      refine ⟨above ++ ownDefinitions file path, .single read parsed visitsAbove, ?_⟩
      rw [applyFile_eq, applyAll_append]
  | case1 => cases ran
  | case2 => cases ran
  | case4 => cases ran
  | case5 => cases ran

/-- What is visited last are the options of the file itself. -/
theorem Visits.exists_own {content : ByteArray} {file : OptionFile}
    (visits : Visits tree [path] definitions) (read : tree.read? path = some content)
    (parsed : OptionFile.ofBytes? content = some file)
    : ∃ above, Visits tree (inherited file path) above
        ∧ definitions = above ++ ownDefinitions file path := by
  cases visits with
  | file readSame parsedSame inherits next =>
      cases read.symm.trans readSame
      cases parsed.symm.trans parsedSame
      cases next
      exact ⟨_, inherits, List.append_nil _⟩

/-- Metadata is made by the definitions of one visit. If the last option of a key in the file
itself is a plain one, it decides the value. Sections and keys stand in the order of their first
definition, and the ways to look at them agree.
-/
theorem eq_applyAll_of_read (done : read tree path = .ok metadata)
    : ∃ definitions,
        Visits tree [path] definitions
        ∧ (∀ others, Visits tree [path] others → others = definitions)
        ∧ metadata = empty.applyAll definitions
        ∧ (∀ content file before definition after,
            tree.read? path = some content →
            OptionFile.ofBytes? content = some file →
            ownDefinitions file path = before ++ definition :: after →
            definition.change = .define →
            (∀ later ∈ after, ¬ later.IsAbout definition.sectionName definition.key) →
            metadata.get definition.sectionName definition.key
                = .ok (Text.trimmed definition.value)
              ∧ metadata.item? definition.sectionName definition.key
                = some ⟨⟨Text.trimmed definition.value, path⟩, definition.key⟩)
        ∧ metadata.InOrder definitions
        ∧ metadata.Agrees := by
  obtain ⟨definitions, visits, rfl⟩ := visits_of_readLayer done
  refine ⟨definitions, visits, fun others again => visits.unique again, rfl, ?_,
    inOrder_applyAll, agrees_applyAll⟩
  intro content file before definition after fileRead parsed split plain last
  obtain ⟨above, -, rfl⟩ := visits.exists_own fileRead parsed
  have listed : definition ∈ ownDefinitions file path := by
    simp [split]
  have source : definition.source = path := by
    obtain ⟨option, -, rfl⟩ := List.mem_map.mp listed
    rfl
  have value : (empty.applyAll (above ++ ownDefinitions file path)).value?
        definition.sectionName definition.key
      = some ⟨Text.trimmed definition.value, path⟩ := by
    rw [split, ← List.append_assoc, ← source]
    exact value?_applyAll_define plain last
  have item := item?_eq.trans (congrArg _ value)
  exact ⟨by rw [get, get?_eq_item?, item]; rfl, item⟩

/-- A metadata file that inherits another one, twice, and names its own id. -/
def inheritingText : String :=
  "[default]\ninherit=base.ini base.ini\n[general]\nid = own\nname+=more\n"

def inheritingFiles : Entries :=
  Entries.set "base.ini" (.file "[general]\nid=base\nname=base\n".toUTF8)
    (Entries.set "own.ini" (.file inheritingText.toUTF8) [])

theorem wellFormed_inheritingFiles : inheritingFiles.WellFormed :=
  (Entries.wellFormed_nil.set (by decide) (.file _)).set (by decide) (.file _)

def inheritingTree : FileTree :=
  ⟨inheritingFiles, wellFormed_inheritingFiles⟩

def inheritingFile : OptionFile :=
  ⟨[⟨"default", [("inherit", "base.ini base.ini")]⟩,
    ⟨"general", [("id", "own"), ("name+", "more")]⟩]⟩

def inheritingMetadata : Metadata :=
  ⟨[("general", [("id", ⟨"own", ⟨"own.ini"⟩⟩), ("name", ⟨"base more", ⟨"own.ini"⟩⟩)])]⟩

theorem read_inheritingTree
    : read inheritingTree ⟨"own.ini"⟩ = .ok inheritingMetadata := by
  have result : (read inheritingTree ⟨"own.ini"⟩).toOption.map id = some inheritingMetadata := by
    decide +kernel
  obtain ⟨metadata, done, rfl⟩ := exists_of_map_toOption result
  exact done

/-- The own id hides the inherited one, though the inherited file is visited twice. -/
theorem eq_applyAll_of_read_inheriting
    : ∃ definitions,
        Visits inheritingTree [⟨"own.ini"⟩] definitions
        ∧ inheritingMetadata = empty.applyAll definitions
        ∧ inheritingMetadata.get "general" "id" = .ok "own" := by
  obtain ⟨definitions, visits, -, applied, own, -, -⟩ := eq_applyAll_of_read read_inheritingTree
  have read : inheritingTree.read? ⟨"own.ini"⟩ = some inheritingText.toUTF8 := by
    decide +kernel
  have parsed : OptionFile.ofBytes? inheritingText.toUTF8 = some inheritingFile := by
    decide +kernel
  have last : ∀ later ∈ [(⟨"general", "name+", "more", ⟨"own.ini"⟩⟩ : Definition)],
      ¬ later.IsAbout "general" "id" := by
    intro later member about
    rw [List.mem_singleton.mp member] at about
    exact absurd about.2 (by decide)
  have decided := own inheritingText.toUTF8 inheritingFile []
    ⟨"general", "id", "own", ⟨"own.ini"⟩⟩ _ read parsed rfl (by decide) last
  exact ⟨definitions, visits, applied, decided.1⟩

end Metadata

end AddonPackager
