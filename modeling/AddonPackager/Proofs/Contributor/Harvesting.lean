import AddonPackager.Contributor.Basic
import AddonPackager.Proofs.Fallible
import AddonPackager.Proofs.Text.Splitting
import AddonPackager.Proofs.Text.Trimming

/-! Harvested contributors. They are the set of the names that options point to, listed in one
order, so neither the order of the options nor how often a name is listed shows in them.
-/

namespace AddonPackager.Contributor

open Text Unicode

variable {tree : FileTree} {metadata : Metadata} {item : MetadataItem}
  {items : List MetadataItem} {name a b c : String} {names others : List String}

-----------------------------------------------------------------------------------------
-- The order of names
-----------------------------------------------------------------------------------------

theorem nameLess_iff
    : nameLess a b = true ↔ lower a < lower b ∨ lower a = lower b ∧ a < b := by
  simp [nameLess]

theorem not_nameLess_self : nameLess a a = false := by
  rw [← Bool.not_eq_true, nameLess_iff]
  rintro (below | ⟨-, below⟩)
  · exact String.lt_irrefl _ below
  · exact String.lt_irrefl _ below

theorem nameLess_trans (first : nameLess a b = true) (second : nameLess b c = true)
    : nameLess a c = true := by
  rw [nameLess_iff] at first second ⊢
  rcases first with first | ⟨firstSame, first⟩
  · rcases second with second | ⟨secondSame, -⟩
    · exact .inl (String.lt_trans first second)
    · exact .inl (secondSame ▸ first)
  · rcases second with second | ⟨secondSame, second⟩
    · exact .inl (firstSame ▸ second)
    · exact .inr ⟨firstSame.trans secondSame, String.lt_trans first second⟩

/-- Different names stand in one order or the other, even if they differ in case only. -/
theorem nameLess_of_ne (different : a ≠ b) (notBefore : nameLess a b = false)
    : nameLess b a = true := by
  simp only [← Bool.not_eq_true, nameLess_iff, not_or, not_and, String.not_lt] at notBefore
  obtain ⟨lowerBelow, below⟩ := notBefore
  rw [nameLess_iff]
  by_cases same : lower a = lower b
  · exact .inr ⟨same.symm, Std.lt_of_le_of_ne (below same) (Ne.symm different)⟩
  · exact .inl (Std.lt_of_le_of_ne lowerBelow (Ne.symm same))

/-- Putting a name in its place adds it, by induction on the names. -/
theorem mem_insertName : a ∈ insertName name names ↔ a = name ∨ a ∈ names := by
  induction names with
  | nil => simp [insertName]
  | cons first rest ih =>
      rw [insertName]
      split
      · rename_i same
        simp [same]
      · split
        · rw [List.mem_cons]
        · rw [List.mem_cons, ih, List.mem_cons, or_left_comm]

/-- Names stay in order when one is put in its place, by induction on the names. -/
theorem pairwise_insertName (ascending : names.Pairwise fun a b => nameLess a b = true)
    : (insertName name names).Pairwise fun a b => nameLess a b = true := by
  induction names with
  | nil => simp [insertName]
  | cons first rest ih =>
      obtain ⟨above, restAscending⟩ := List.pairwise_cons.mp ascending
      rw [insertName]
      split
      · exact ascending
      · rename_i different
        split
        · rename_i before
          refine List.pairwise_cons.mpr ⟨fun a member => ?_, ascending⟩
          rcases List.mem_cons.mp member with rfl | later
          · exact before
          · exact nameLess_trans before (above a later)
        · rename_i notBefore
          refine List.pairwise_cons.mpr ⟨fun a member => ?_, ih restAscending⟩
          rcases mem_insertName.mp member with rfl | later
          · exact nameLess_of_ne different (by simpa using notBefore)
          · exact above a later

/-- Sorting keeps the set of names, by induction on them. -/
theorem mem_foldl_insertName
    : a ∈ names.foldl (fun sorted name => insertName name sorted) others
      ↔ a ∈ names ∨ a ∈ others := by
  induction names generalizing others with
  | nil => simp
  | cons first rest ih =>
      rw [List.foldl_cons, ih, mem_insertName, List.mem_cons, or_left_comm, or_assoc]

theorem mem_sortNames : a ∈ sortNames names ↔ a ∈ names := by
  simp [sortNames, mem_foldl_insertName]

theorem pairwise_sortNames : (sortNames names).Pairwise fun a b => nameLess a b = true :=
  List.foldlRecOn names (fun sorted name => insertName name sorted) .nil
    fun _ ascending _ _ => pairwise_insertName ascending

theorem nodup_of_pairwise_nameLess (ascending : names.Pairwise fun a b => nameLess a b = true)
    : names.Nodup := by
  refine ascending.imp ?_
  rintro a b before rfl
  rw [not_nameLess_self] at before
  cases before

/-- In order, there is one list of a set of names. -/
theorem eq_of_pairwise_nameLess (ascending : names.Pairwise fun a b => nameLess a b = true)
    (othersAscending : others.Pairwise fun a b => nameLess a b = true)
    (same : ∀ name, name ∈ names ↔ name ∈ others)
    : names = others := by
  have perm : names.Perm others :=
    (List.perm_ext_iff_of_nodup (nodup_of_pairwise_nameLess ascending)
      (nodup_of_pairwise_nameLess othersAscending)).mpr same
  refine List.Perm.eq_of_pairwise ?_ ascending othersAscending perm
  intro a b _ _ before behind
  have loop := nameLess_trans before behind
  rw [not_nameLess_self] at loop
  cases loop

-----------------------------------------------------------------------------------------
-- Names in texts
-----------------------------------------------------------------------------------------

/-- A name as it is listed: not empty, without a comma and without blanks at its ends. -/
structure IsPlain (name : String) : Prop where
  nonempty : name ≠ ""
  noComma : ',' ∉ name.toList
  trimmed : Text.trimmed name = name

theorem isPlain_of_mem_namesIn {value : List Char} (member : name ∈ namesIn value)
    : IsPlain name := by
  obtain ⟨chars, listed, rfl⟩ := List.mem_map.mp member
  obtain ⟨listed, nonempty⟩ := List.mem_filter.mp listed
  obtain ⟨piece, inValue, rfl⟩ := List.mem_map.mp listed
  refine ⟨?_, ?_, ?_⟩
  · intro empty
    rw [String.ofList_eq_empty_iff] at empty
    simp [empty] at nonempty
  · rw [String.toList_ofList]
    exact fun comma => not_mem_of_mem_splitOn inValue (mem_of_mem_trim comma)
  · rw [Text.trimmed, String.toList_ofList, trim_trim]

theorem isPlain_of_mem_attributeValues {text tag attributeName : List Char}
    (member : name ∈ attributeValues text tag attributeName)
    : IsPlain name := by
  obtain ⟨element, -, inElement⟩ := List.mem_flatMap.mp member
  cases found : attributeValue? attributeName element with
  | none => simp [found] at inElement
  | some value =>
      rw [found] at inElement
      exact isPlain_of_mem_namesIn inElement

-----------------------------------------------------------------------------------------
-- Options
-----------------------------------------------------------------------------------------

/-- Whether the name of an option consists of digits, which makes its value a literal name. -/
def isLiteral (item : MetadataItem) : Bool :=
  item.key.toList.all Char.isDigit

/-- The file that an option points to. -/
def listPath (item : MetadataItem) (location : Location) : DiskPath :=
  item.sourceDirectory ++ DiskPath.ofSlashed (String.ofList location.file)

/-- An option with another name that points to a location. -/
def PointsTo (item : MetadataItem) (location : Location) : Prop :=
  isLiteral item = false ∧ Location.parse? item.value.toList = some location

/-- A name that is listed where an option points to. -/
def Lists (tree : FileTree) (item : MetadataItem) (name : String) : Prop :=
  ∃ location text,
    PointsTo item location
    ∧ tree.readText? (listPath item location) = some text
    ∧ name ∈ attributeValues text.toList location.tag location.attributeName

/-- The file of an option that points to one can be read. -/
def IsReadable (tree : FileTree) (item : MetadataItem) : Prop :=
  ∀ location, PointsTo item location → (tree.readText? (listPath item location)).isSome = true

/-- The values of the options whose names consist of digits, in the order of the options. -/
def literalNames (items : List MetadataItem) : List String :=
  (items.filter isLiteral).map (·.value)

theorem ofItem_eq_harvested_iff {location : Location}
    : Source.ofItem item = .harvested location ↔ PointsTo item location := by
  rw [Source.ofItem, PointsTo, isLiteral]
  split
  · simp_all
  · split <;> simp_all

theorem harvest_of_readText? {location : Location} {text : String}
    (read : tree.readText? (listPath item location) = some text)
    : harvest tree item location
      = .ok (attributeValues text.toList location.tag location.attributeName) := by
  unfold harvest
  unfold listPath at read
  simp only [read]

theorem isSome_readText?_of_harvest {location : Location}
    (done : harvest tree item location = .ok names)
    : (tree.readText? (listPath item location)).isSome = true := by
  unfold harvest at done
  unfold listPath
  simp only at done
  split at done
  · rename_i text read
    exact Option.isSome_of_eq_some read
  · cases done

/-- What gathering an option adds, if its file can be read. -/
theorem exists_gather_of_isReadable (gathered : Gathered) (readable : IsReadable tree item)
    : ∃ names warnings,
        gather tree gathered item
          = .ok ⟨gathered.literals ++ literalNames [item], gathered.names ++ names, warnings⟩
        ∧ ∀ name, name ∈ names ↔ Lists tree item name := by
  have notListed : (∀ location, ¬ PointsTo item location) →
      ∀ name, name ∈ ([] : List String) ↔ Lists tree item name := by
    rintro nowhere name
    simp [Lists, nowhere]
  cases literal : isLiteral item with
  | true =>
      have source : Source.ofItem item = .literal item.value := if_pos literal
      refine ⟨[], gathered.warnings, ?_, notListed ?_⟩
      · simp [gather, source, literalNames, literal]
      · rintro location ⟨notLiteral, -⟩
        simp [literal] at notLiteral
  | false =>
      cases parsed : Location.parse? item.value.toList with
      | none =>
          have source : Source.ofItem item = .unrecognized := by
            simp [Source.ofItem, ← isLiteral.eq_1, literal, parsed]
          refine ⟨[], gathered.warnings ++ [.unrecognizedContributor item.key item.value], ?_,
            notListed ?_⟩
          · simp [gather, source, literalNames, literal]
          · rintro location ⟨-, found⟩
            simp [parsed] at found
      | some location =>
          have points : PointsTo item location := ⟨literal, parsed⟩
          obtain ⟨text, read⟩ := Option.isSome_iff_exists.mp (readable location points)
          have none : literalNames [item] = [] := by
            simp [literalNames, literal]
          refine ⟨attributeValues text.toList location.tag location.attributeName,
            gathered.warnings, ?_, fun name => ⟨fun member => ?_, ?_⟩⟩
          · simp only [gather, ofItem_eq_harvested_iff.mpr points, harvest_of_readText? read, none,
              List.append_nil]
            rfl
          · exact ⟨location, text, points, read, member⟩
          · rintro ⟨location', text', ⟨-, parsed'⟩, read', member⟩
            cases parsed.symm.trans parsed'
            cases read.symm.trans read'
            exact member

/-- An option that has been gathered could be read. -/
theorem isReadable_of_gather {gathered after : Gathered}
    (done : gather tree gathered item = .ok after)
    : IsReadable tree item := by
  intro location points
  rw [gather, ofItem_eq_harvested_iff.mpr points] at done
  obtain ⟨names, listed, -⟩ := exists_of_map_eq_ok done
  exact isSome_readText?_of_harvest listed

/-- A run over options that can be read gathers their literal names in order, and the names that
they list, by induction on the options.
-/
theorem exists_foldlM_gather (gathered : Gathered)
    (readable : ∀ item ∈ items, IsReadable tree item)
    : ∃ names warnings,
        items.foldlM (gather tree) gathered
          = .ok ⟨gathered.literals ++ literalNames items, gathered.names ++ names, warnings⟩
        ∧ ∀ name, name ∈ names ↔ ∃ item ∈ items, Lists tree item name := by
  induction items generalizing gathered with
  | nil => exact ⟨[], gathered.warnings, by simp [literalNames]; rfl, by simp⟩
  | cons first rest ih =>
      obtain ⟨firstReadable, restReadable⟩ := List.forall_mem_cons.mp readable
      obtain ⟨firstNames, firstWarnings, firstDone, firstListed⟩ :=
        exists_gather_of_isReadable gathered firstReadable
      obtain ⟨restNames, warnings, restDone, restListed⟩ := ih
        ⟨gathered.literals ++ literalNames [first], gathered.names ++ firstNames, firstWarnings⟩
        restReadable
      have literals : literalNames (first :: rest) = literalNames [first] ++ literalNames rest := by
        rw [literalNames, ← List.singleton_append, List.filter_append, List.map_append]
        rfl
      refine ⟨firstNames ++ restNames, warnings, ?_, ?_⟩
      · rw [List.foldlM_cons, firstDone, bind_ok, restDone, literals, List.append_assoc,
          List.append_assoc]
      · intro name
        rw [List.mem_append, firstListed, restListed]
        simp

-----------------------------------------------------------------------------------------
-- The list of contributors
-----------------------------------------------------------------------------------------

theorem sortedItems_perm : (sortedItems metadata).Perm (metadata.items sectionName) :=
  List.mergeSort_perm _ _

/-- If the contributors are read, every file that an option points to can be read. -/
theorem isReadable_of_read {result : List String × List Warning}
    (done : read tree metadata = .ok result)
    : ∀ item ∈ metadata.items sectionName, IsReadable tree item := by
  intro item member
  obtain ⟨gathered, run, -⟩ := exists_of_map_eq_ok done
  obtain ⟨before, after, step⟩ := exists_step_of_foldlM run (sortedItems_perm.mem_iff.mpr member)
  exact isReadable_of_gather step

/-- If every file that an option points to can be read, so are the contributors: the literal names
in option order, and the listed ones sorted.
-/
theorem exists_read_of_isReadable
    (readable : ∀ item ∈ metadata.items sectionName, IsReadable tree item)
    : ∃ names warnings,
        read tree metadata
          = .ok (literalNames (sortedItems metadata) ++ sortNames names, warnings)
        ∧ ∀ name, name ∈ names ↔ ∃ item ∈ metadata.items sectionName, Lists tree item name := by
  have sortedReadable : ∀ item ∈ sortedItems metadata, IsReadable tree item :=
    fun item member => readable item (sortedItems_perm.mem_iff.mp member)
  obtain ⟨names, warnings, run, listed⟩ := exists_foldlM_gather ⟨[], [], []⟩ sortedReadable
  refine ⟨names, warnings, ?_, fun name => ?_⟩
  · rw [read, run, List.nil_append, List.nil_append]
    rfl
  · simp only [listed, sortedItems_perm.mem_iff]

/-- The harvested names of options: those that the options list, strictly ascending without regard
to case first and then as they are, and each as it is listed.
-/
structure IsHarvest (tree : FileTree) (items : List MetadataItem) (harvested : List String)
    : Prop where
  ascending : harvested.Pairwise fun a b => lower a < lower b ∨ lower a = lower b ∧ a < b
  distinct : harvested.Nodup
  names : ∀ name, name ∈ harvested ↔ ∃ item ∈ items, Lists tree item name
  plain : ∀ name ∈ harvested, IsPlain name

theorem isHarvest_sortNames
    (listed : ∀ name, name ∈ names ↔ ∃ item ∈ items, Lists tree item name)
    : IsHarvest tree items (sortNames names) where
  ascending := pairwise_sortNames.imp nameLess_iff.mp
  distinct := nodup_of_pairwise_nameLess pairwise_sortNames
  names name := mem_sortNames.trans (listed name)
  plain name member := by
    obtain ⟨item, -, location, text, -, -, inText⟩ := (listed name).mp (mem_sortNames.mp member)
    exact isPlain_of_mem_attributeValues inText

/-- The contributors are the literal names and then the harvested ones. These are the set of the
listed names in order, so they are the same for every order in which the options are defined.
-/
theorem exists_isHarvest_of_read {contributors : List String} {warnings : List Warning}
    (done : read tree metadata = .ok (contributors, warnings))
    : ∃ harvested,
        contributors = literalNames (sortedItems metadata) ++ harvested
        ∧ IsHarvest tree (metadata.items sectionName) harvested
        ∧ ∀ other : Metadata, (other.items sectionName).Perm (metadata.items sectionName) →
            ∃ otherWarnings,
              read tree other
                = .ok (literalNames (sortedItems other) ++ harvested, otherWarnings) := by
  have readable := isReadable_of_read done
  obtain ⟨names, _, same, listed⟩ := exists_read_of_isReadable readable
  cases done.symm.trans same
  refine ⟨sortNames names, rfl, isHarvest_sortNames listed, fun other perm => ?_⟩
  have otherReadable : ∀ item ∈ other.items sectionName, IsReadable tree item :=
    fun item member => readable item (perm.mem_iff.mp member)
  obtain ⟨otherNames, otherWarnings, otherDone, otherListed⟩ :=
    exists_read_of_isReadable otherReadable
  have sameNames : sortNames otherNames = sortNames names := by
    refine eq_of_pairwise_nameLess pairwise_sortNames pairwise_sortNames fun name => ?_
    simp only [mem_sortNames, otherListed, listed, perm.mem_iff]
  exact ⟨otherWarnings, sameNames ▸ otherDone⟩

/-- What is read from options that are defined in the order of their names. -/
theorem read_of_pairwise {contributors : List String} {warnings : List Warning}
    (ascending : (metadata.items sectionName).Pairwise fun a b => decide (a.key ≤ b.key) = true)
    (gathered : ((metadata.items sectionName).foldlM (gather tree)
        ⟨[], [], []⟩).toOption.map (fun gathered =>
          (gathered.literals ++ sortNames gathered.names, gathered.warnings))
      = some (contributors, warnings))
    : read tree metadata = .ok (contributors, warnings) := by
  obtain ⟨all, run, same⟩ := exists_of_map_toOption gathered
  rw [read, sortedItems, List.mergeSort_of_pairwise ascending, run, ← same]
  rfl

/-- A list in which names differ in case only, with blanks and an empty place in it. -/
def translatorFiles : Entries :=
  Entries.set "t.xml" (.file "<l t=\"zoe, bert ,,Bert\"/><l t='zoe'/>".toUTF8) []

theorem wellFormed_translatorFiles : translatorFiles.WellFormed :=
  Entries.wellFormed_nil.set (by decide) (.file _)

def translatorTree : FileTree :=
  ⟨translatorFiles, wellFormed_translatorFiles⟩

/-- A literal name and an option that points to the list. -/
def translatorMetadata : Metadata :=
  ⟨[(sectionName, [("1", ⟨"First", ⟨"m"⟩⟩), ("x", ⟨"t.xml //l/@t", ⟨"m"⟩⟩)])]⟩

theorem read_translatorTree
    : read translatorTree translatorMetadata = .ok (["First", "Bert", "bert", "zoe"], []) :=
  read_of_pairwise (by decide) (by decide +kernel)

/-- Names that differ in case only are both kept, and names that are listed twice are there once. -/
theorem exists_isHarvest_of_read_translators
    : read translatorTree translatorMetadata = .ok (["First", "Bert", "bert", "zoe"], [])
      ∧ IsHarvest translatorTree (translatorMetadata.items sectionName)
        ["Bert", "bert", "zoe"] := by
  obtain ⟨harvested, same, harvest, -⟩ := exists_isHarvest_of_read read_translatorTree
  have sorted : sortedItems translatorMetadata = translatorMetadata.items sectionName :=
    List.mergeSort_of_pairwise (by decide)
  have literals : literalNames (translatorMetadata.items sectionName) = ["First"] := by
    decide
  rw [sorted, literals] at same
  have listed : ["Bert", "bert", "zoe"] = harvested := (List.cons.inj same).2
  exact ⟨read_translatorTree, listed ▸ harvest⟩

end AddonPackager.Contributor
