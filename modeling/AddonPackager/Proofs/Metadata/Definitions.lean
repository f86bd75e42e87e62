import AddonPackager.Metadata.Layers
import AddonPackager.Proofs.Dict.Lookup

/-! Definitions applied to metadata one after the other. The last plain definition of an option
decides its value, sections and keys stand in the order in which they are first mentioned, and the
ways to look at the result agree.
-/

namespace AddonPackager

namespace Metadata

-----------------------------------------------------------------------------------------
-- Definitions
-----------------------------------------------------------------------------------------

/-- An option of a metadata file, with the file it stands in. -/
structure Definition where
  sectionName : String
  name : String
  value : String
  source : DiskPath

/-- What a definition does to the value of its key. -/
def Definition.change (definition : Definition) : Change :=
  (readName (Text.trim definition.name.toList)).1

def Definition.key (definition : Definition) : String :=
  String.ofList (readName (Text.trim definition.name.toList)).2

/-- Whether a definition is about an option. -/
def Definition.IsAbout (definition : Definition) (sectionName key : String) : Prop :=
  definition.sectionName = sectionName ∧ definition.key = key

variable {metadata : Metadata} {sectionName other key otherKey value : String} {source : DiskPath}

-----------------------------------------------------------------------------------------
-- Lookups
-----------------------------------------------------------------------------------------

/-- The value of an option with the file that gave it. -/
def value? (metadata : Metadata) (sectionName key : String) : Option MetadataValue :=
  Assoc.get? key (metadata.values sectionName)

theorem values_set
    : (metadata.set sectionName key value source).values other
      = if sectionName = other then Assoc.set key ⟨value, source⟩ (metadata.values sectionName)
        else metadata.values other := by
  rw [values, set, Assoc.get?_set]
  split <;> rfl

/-- Setting an option changes its value only. -/
theorem value?_set
    : (metadata.set sectionName key value source).value? other otherKey
      = if sectionName = other ∧ key = otherKey then some ⟨value, source⟩
        else metadata.value? other otherKey := by
  rw [value?, values_set]
  by_cases sameSection : sectionName = other
  · subst sameSection
    rw [if_pos rfl, Assoc.get?_set]
    by_cases sameKey : key = otherKey <;> simp [sameKey, value?]
  · simp [sameSection, value?]

/-- The item of a key has its value, by induction on the values of the section. -/
theorem item?_eq
    : metadata.item? sectionName key
      = (metadata.value? sectionName key).map fun value => ⟨value, key⟩ := by
  rw [item?, items, value?]
  induction metadata.values sectionName with
  | nil => rfl
  | cons head rest ih =>
      obtain ⟨name, value⟩ := head
      rw [List.map_cons, List.find?_cons, Assoc.get?_cons]
      by_cases here : name = key
      · simp [here]
      · have other : (name == key) = false := by simpa using here
        rw [other, if_neg here]
        exact ih

theorem get?_eq_item?
    : metadata.get? sectionName key = (metadata.item? sectionName key).map (·.value) := by
  rw [item?_eq, get?, ← value?, Option.map_map]
  rfl

-----------------------------------------------------------------------------------------
-- Applied definitions
-----------------------------------------------------------------------------------------

def applyDefinition (metadata : Metadata) (definition : Definition) : Metadata :=
  metadata.apply definition.sectionName definition.name definition.value definition.source

/-- The metadata with definitions applied one after the other. -/
def applyAll (metadata : Metadata) (definitions : List Definition) : Metadata :=
  definitions.foldl applyDefinition metadata

variable {definition : Definition} {definitions before after : List Definition}

theorem applyAll_append {more : List Definition}
    : metadata.applyAll (definitions ++ more) = (metadata.applyAll definitions).applyAll more :=
  List.foldl_append

theorem applyDefinition_eq
    : metadata.applyDefinition definition
      = metadata.set definition.sectionName definition.key
          (changedValue definition.change
            (metadata.get? definition.sectionName definition.key) definition.value)
          definition.source :=
  rfl

theorem value?_applyDefinition_of_not (notAbout : ¬ definition.IsAbout sectionName key)
    : (metadata.applyDefinition definition).value? sectionName key
      = metadata.value? sectionName key := by
  rw [applyDefinition_eq, value?_set]
  exact if_neg notAbout

/-- Definitions of other options leave a value as it is, by induction on them. -/
theorem value?_applyAll_of_forall_not
    (notAbout : ∀ definition ∈ definitions, ¬ definition.IsAbout sectionName key)
    : (metadata.applyAll definitions).value? sectionName key
      = metadata.value? sectionName key := by
  induction definitions generalizing metadata with
  | nil => rfl
  | cons first rest ih =>
      rw [applyAll, List.foldl_cons, ← applyAll,
        ih fun later member => notAbout later (List.mem_cons_of_mem _ member),
        value?_applyDefinition_of_not (notAbout first List.mem_cons_self)]

/-- The last plain definition of an option decides its value, whatever came before. -/
theorem value?_applyAll_define (plain : definition.change = .define)
    (last : ∀ later ∈ after, ¬ later.IsAbout definition.sectionName definition.key)
    : (metadata.applyAll (before ++ definition :: after)).value? definition.sectionName
          definition.key
      = some ⟨Text.trimmed definition.value, definition.source⟩ := by
  rw [applyAll_append, applyAll, List.foldl_cons, ← applyAll,
    value?_applyAll_of_forall_not last, applyDefinition_eq, value?_set, plain]
  simp [changedValue]

-----------------------------------------------------------------------------------------
-- Order
-----------------------------------------------------------------------------------------

/-- Sections stand in the order in which definitions first mention them, by induction on the
definitions from their end.
-/
theorem names_sections_applyAll
    : Assoc.names (empty.applyAll definitions).sections
      = (definitions.map (·.sectionName)).eraseDups := by
  induction definitions using List.reverseRecOn with
  | nil => rfl
  | append_singleton front definition ih =>
      rw [applyAll_append, List.map_append, List.map_singleton, eraseDups_append_singleton, ← ih]
      exact Assoc.names_set

/-- The keys of a section stand in the order in which its definitions first mention them, by
induction on the definitions from their end.
-/
theorem names_values_applyAll
    : Assoc.names ((empty.applyAll definitions).values sectionName)
      = ((definitions.filter (·.sectionName = sectionName)).map (·.key)).eraseDups := by
  induction definitions using List.reverseRecOn with
  | nil => rfl
  | append_singleton front definition ih =>
      have last : empty.applyAll (front ++ [definition])
          = (empty.applyAll front).applyDefinition definition :=
        applyAll_append
      rw [last, applyDefinition_eq, values_set, List.filter_append, List.filter_singleton]
      by_cases here : definition.sectionName = sectionName
      · subst here
        rw [if_pos rfl, Assoc.names_set, decide_eq_true rfl, cond_true, List.map_append,
          List.map_singleton, eraseDups_append_singleton, ← ih]
      · rw [if_neg here, decide_eq_false here, cond_false, List.append_nil, ih]

/-- Sections and keys stand once, in the order in which definitions first mention them. -/
structure InOrder (metadata : Metadata) (definitions : List Definition) : Prop where
  sections
    : Assoc.names metadata.sections = (definitions.map (·.sectionName)).eraseDups
      ∧ (Assoc.names metadata.sections).Nodup
  keys
    : ∀ sectionName,
        Assoc.names (metadata.values sectionName)
            = ((definitions.filter (·.sectionName = sectionName)).map (·.key)).eraseDups
          ∧ (Assoc.names (metadata.values sectionName)).Nodup

theorem inOrder_applyAll : (empty.applyAll definitions).InOrder definitions where
  sections := ⟨names_sections_applyAll, names_sections_applyAll ▸ nodup_eraseDups _⟩
  keys _ := ⟨names_values_applyAll, names_values_applyAll ▸ nodup_eraseDups _⟩

-----------------------------------------------------------------------------------------
-- Views
-----------------------------------------------------------------------------------------

/-- The ways to look at metadata agree on every section and key. -/
structure Agrees (metadata : Metadata) : Prop where
  items
    : ∀ sectionName item,
        item ∈ metadata.items sectionName ↔ metadata.item? sectionName item.key = some item
  get?
    : ∀ sectionName key,
        metadata.get? sectionName key = (metadata.item? sectionName key).map (·.value)
  hasSection
    : ∀ sectionName, metadata.hasSection sectionName = true ↔ metadata.items sectionName ≠ []
  dictSection
    : ∀ sectionName,
        (metadata.toDict.get? sectionName).isSome = metadata.hasSection sectionName
  dictValue
    : ∀ sectionName key,
        (metadata.toDict.get? sectionName).bind (·.get? key) = metadata.get? sectionName key

/-- The values of a section, in ascending order of their keys. -/
def sectionDict (values : List (String × MetadataValue)) : Dict String :=
  Dict.ofList (values.map fun entry => (entry.1, entry.2.value))

/-- Where sections stand once, the map has the section that a lookup finds. -/
theorem get?_toDict (distinct : (Assoc.names metadata.sections).Nodup)
    : metadata.toDict.get? sectionName
      = (Assoc.get? sectionName metadata.sections).map sectionDict := by
  have names : Assoc.names (metadata.sections.map fun entry => (entry.1, sectionDict entry.2))
      = Assoc.names metadata.sections := by
    simp [Assoc.names]
  rw [toDict, Dict.get?_ofList]
  exact (Assoc.get?_reverse (names ▸ distinct)).trans (Assoc.get?_map sectionDict)

/-- Where keys stand once, the map of a section has its values. -/
theorem get?_sectionDict {values : List (String × MetadataValue)}
    (distinct : (Assoc.names values).Nodup)
    : (sectionDict values).get? key = (Assoc.get? key values).map (·.value) := by
  have names : Assoc.names (values.map fun entry => (entry.1, entry.2.value))
      = Assoc.names values := by
    simp [Assoc.names]
  rw [sectionDict, Dict.get?_ofList, Assoc.get?_reverse (names ▸ distinct), Assoc.get?_map]

theorem mem_items_iff (distinct : (Assoc.names (metadata.values sectionName)).Nodup)
    {item : MetadataItem}
    : item ∈ metadata.items sectionName ↔ metadata.item? sectionName item.key = some item := by
  obtain ⟨value, key⟩ := item
  rw [item?_eq, value?]
  constructor
  · intro listed
    obtain ⟨entry, member, same⟩ := List.mem_map.mp listed
    cases same
    rw [Assoc.get?_of_mem distinct member]
    rfl
  · intro found
    obtain ⟨own, inSection, same⟩ := Option.map_eq_some_iff.mp found
    cases same
    exact List.mem_map.mpr ⟨_, Assoc.mem_of_get? inSection, rfl⟩

/-- A section that definitions mention has items, and no other one has. -/
theorem hasSection_applyAll_iff
    : (empty.applyAll definitions).hasSection sectionName = true
      ↔ (empty.applyAll definitions).items sectionName ≠ [] := by
  have mentioned : (empty.applyAll definitions).hasSection sectionName = true
      ↔ ∃ definition ∈ definitions, definition.sectionName = sectionName := by
    rw [hasSection, Assoc.isSome_get?_iff, names_sections_applyAll, List.mem_eraseDups,
      List.mem_map]
  rw [mentioned, items, ne_eq, List.map_eq_nil_iff, ← List.map_eq_nil_iff (f := Prod.fst),
    ← Assoc.names, names_values_applyAll]
  constructor
  · rintro ⟨definition, member, rfl⟩ none
    have key : definition.key ∈ ((definitions.filter
        (·.sectionName = definition.sectionName)).map (·.key)).eraseDups :=
      List.mem_eraseDups.mpr (List.mem_map.mpr ⟨definition, by simp [member], rfl⟩)
    rw [none] at key
    exact List.not_mem_nil key
  · intro some
    obtain ⟨key, member⟩ := List.exists_mem_of_ne_nil _ some
    obtain ⟨definition, inSection, -⟩ := List.mem_map.mp (List.mem_eraseDups.mp member)
    obtain ⟨listed, here⟩ := List.mem_filter.mp inSection
    exact ⟨definition, listed, by simpa using here⟩

/-- Metadata that definitions made looks the same from all sides. -/
theorem agrees_applyAll : (empty.applyAll definitions).Agrees := by
  have ordered : (empty.applyAll definitions).InOrder definitions := inOrder_applyAll
  refine ⟨?_, ?_, ?_, ?_, ?_⟩
  · exact fun sectionName item => mem_items_iff (ordered.keys sectionName).2
  · exact fun sectionName key => get?_eq_item?
  · exact fun sectionName => hasSection_applyAll_iff
  · intro sectionName
    rw [get?_toDict ordered.sections.2, Option.isSome_map, hasSection]
  · intro sectionName key
    rw [get?_toDict ordered.sections.2, Option.bind_map, get?, values]
    cases found : Assoc.get? sectionName (empty.applyAll definitions).sections with
    | none => rfl
    | some values =>
        have distinct := (ordered.keys sectionName).2
        rw [Metadata.values, found] at distinct
        exact get?_sectionDict distinct

end Metadata

end AddonPackager
