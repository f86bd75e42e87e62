import AddonPackager.Dict
import Mathlib.Data.List.Induction
import Mathlib.Data.List.Nodup

/-! Looking up names in lists of named values and in finite maps. Every operation is described
by what it does to lookups, and finite maps with the same lookups are equal.
-/

namespace AddonPackager

-----------------------------------------------------------------------------------------
-- Order of first mention
-----------------------------------------------------------------------------------------

/-- A name at the end of a list is a first mention if it is new. -/
theorem eraseDups_append_singleton {names : List String} {name : String}
    : (names ++ [name]).eraseDups
      = if name ∈ names.eraseDups then names.eraseDups else names.eraseDups ++ [name] := by
  rw [List.eraseDups_append]
  by_cases known : name ∈ names <;> simp [known, List.removeAll, List.eraseDups_cons]

/-- First mentions are different, by induction on the list from its end. -/
theorem nodup_eraseDups (names : List String) : names.eraseDups.Nodup := by
  induction names using List.reverseRecOn with
  | nil => simp
  | append_singleton front name ih =>
      rw [eraseDups_append_singleton]
      split
      · exact ih
      · rename_i fresh
        refine List.nodup_append.mpr ⟨ih, by simp, ?_⟩
        rintro first member second here rfl
        exact fresh (List.mem_singleton.mp here ▸ member)

end AddonPackager

namespace AddonPackager.Assoc

variable {α : Type} {name other : String} {value : α} {pairs more : List (String × α)}

-----------------------------------------------------------------------------------------
-- Lookups and names
-----------------------------------------------------------------------------------------

@[simp] theorem get?_nil : get? name ([] : List (String × α)) = none := rfl

theorem get?_cons
    : get? name ((other, value) :: pairs) = if other = name then some value else get? name pairs :=
  rfl

@[simp] theorem names_nil : names ([] : List (String × α)) = [] := rfl

@[simp] theorem names_cons : names ((name, value) :: pairs) = name :: names pairs := rfl

@[simp] theorem names_append : names (pairs ++ more) = names pairs ++ names more :=
  List.map_append

/-- Exactly the names have no value that are not listed, by induction on the pairs. -/
theorem get?_eq_none_iff : get? name pairs = none ↔ name ∉ names pairs := by
  induction pairs with
  | nil => simp
  | cons head rest ih =>
      obtain ⟨n, old⟩ := head
      by_cases same : n = name
      · simp [get?_cons, same]
      · simp [get?_cons, same, ih, Ne.symm same]

theorem isSome_get?_iff : (get? name pairs).isSome = true ↔ name ∈ names pairs := by
  rw [Option.isSome_iff_ne_none, ne_eq, get?_eq_none_iff, not_not]

/-- In a list of two parts the first part counts first, by induction on it. -/
theorem get?_append : get? name (pairs ++ more) = (get? name pairs).or (get? name more) := by
  induction pairs with
  | nil => simp
  | cons head rest ih =>
      obtain ⟨n, old⟩ := head
      rw [List.cons_append, get?_cons, get?_cons, ih]
      split <;> simp

/-- A lookup finds the first value of a name, by induction on the pairs. -/
theorem get?_eq_some_iff_append
    : get? name pairs = some value
      ↔ ∃ before after, pairs = before ++ (name, value) :: after ∧ name ∉ names before := by
  constructor
  · intro found
    induction pairs with
    | nil => cases found
    | cons head rest ih =>
        obtain ⟨n, old⟩ := head
        rw [get?_cons] at found
        split at found
        · rename_i here
          cases here
          cases found
          exact ⟨[], rest, rfl, List.not_mem_nil⟩
        · rename_i elsewhere
          obtain ⟨before, after, split, fresh⟩ := ih found
          refine ⟨(n, old) :: before, after, by rw [split, List.cons_append], ?_⟩
          rw [names_cons, List.mem_cons, not_or]
          exact ⟨Ne.symm elsewhere, fresh⟩
  · rintro ⟨before, after, rfl, fresh⟩
    rw [get?_append, get?_eq_none_iff.mpr fresh, Option.none_or, get?_cons, if_pos rfl]

/-- In reverse order a lookup finds the last value of a name. -/
theorem get?_reverse_eq_some_iff
    : get? name pairs.reverse = some value
      ↔ ∃ before after, pairs = before ++ (name, value) :: after ∧ name ∉ names after := by
  rw [get?_eq_some_iff_append]
  constructor
  · rintro ⟨after, before, split, last⟩
    refine ⟨before.reverse, after.reverse, ?_, by simpa [names] using last⟩
    rw [← List.reverse_reverse pairs, split]
    simp
  · rintro ⟨before, after, rfl, last⟩
    exact ⟨after.reverse, before.reverse, by simp, by simpa [names] using last⟩

/-- Where every name stands once, a listed value is found, by induction on the pairs. -/
theorem get?_of_mem (distinct : (names pairs).Nodup) (member : (name, value) ∈ pairs)
    : get? name pairs = some value := by
  induction pairs with
  | nil => simp at member
  | cons head rest ih =>
      obtain ⟨n, old⟩ := head
      obtain ⟨fresh, restDistinct⟩ := List.nodup_cons.mp distinct
      rcases List.mem_cons.mp member with same | later
      · cases same
        simp [get?_cons]
      · have listed : name ∈ names rest := List.mem_map.mpr ⟨(name, value), later, rfl⟩
        have different : n ≠ name := by
          rintro rfl
          exact fresh listed
        rw [get?_cons, if_neg different]
        exact ih restDistinct later

/-- Where a name has one value only, however often it is listed, that value is found. -/
theorem get?_eq_some_iff_mem
    (single : ∀ {first second : α}, (name, first) ∈ pairs → (name, second) ∈ pairs →
      first = second)
    : get? name pairs = some value ↔ (name, value) ∈ pairs := by
  constructor
  · exact mem_of_get?
  · intro member
    have listed : name ∈ names pairs := List.mem_map.mpr ⟨(name, value), member, rfl⟩
    obtain ⟨found, here⟩ := Option.isSome_iff_exists.mp (isSome_get?_iff.mpr listed)
    rw [here, single (mem_of_get? here) member]

/-- In the listings of several sources, a name that only one of them can have is looked up there,
by induction on the sources.
-/
theorem get?_flatMap {β : Type} [DecidableEq β] {sources : List β} {listing : β → List (String × α)}
    {chosen : β}
    (others : ∀ source ∈ sources, source ≠ chosen → get? name (listing source) = none)
    : get? name (sources.flatMap listing)
      = if chosen ∈ sources then get? name (listing chosen) else none := by
  induction sources with
  | nil => rfl
  | cons first rest ih =>
      have later := ih fun source member => others source (List.mem_cons_of_mem _ member)
      rw [List.flatMap_cons, get?_append, later]
      by_cases here : first = chosen
      · subst here
        rw [if_pos List.mem_cons_self]
        split <;> simp
      · rw [others first List.mem_cons_self here, Option.none_or]
        simp [Ne.symm here]

/-- Leaving out pairs of other names changes no lookup, by induction on the pairs. -/
theorem get?_filter {keep : String × α → Bool} (kept : ∀ value, keep (name, value) = true)
    : get? name (pairs.filter keep) = get? name pairs := by
  induction pairs with
  | nil => rfl
  | cons head rest ih =>
      obtain ⟨n, old⟩ := head
      by_cases here : n = name
      · subst here
        rw [List.filter_cons_of_pos (kept old), get?_cons, get?_cons, if_pos rfl, if_pos rfl]
      · rw [get?_cons, if_neg here, ← ih, List.filter_cons]
        split
        · rw [get?_cons, if_neg here]
        · rfl

theorem get?_erase_self : get? name (erase name pairs) = none := by
  rw [get?_eq_none_iff, names, List.mem_map]
  rintro ⟨pair, member, here⟩
  simpa [here] using (List.mem_filter.mp member).2

theorem get?_erase_of_ne (different : name ≠ other)
    : get? name (erase other pairs) = get? name pairs :=
  get?_filter fun _ => by simpa using different

/-- Where every name stands once, the order of the pairs does not matter. -/
theorem get?_reverse (distinct : (names pairs).Nodup)
    : get? name pairs.reverse = get? name pairs := by
  cases found : get? name pairs with
  | none =>
      rw [get?_eq_none_iff] at found ⊢
      rwa [names, List.map_reverse, List.mem_reverse]
  | some value =>
      refine get?_of_mem ?_ (List.mem_reverse.mpr (mem_of_get? found))
      rwa [names, List.map_reverse, List.nodup_reverse]

/-- Changing the values changes what lookups find, by induction on the pairs. -/
theorem get?_map {β : Type} (change : α → β)
    : get? name (pairs.map fun pair => (pair.1, change pair.2))
      = (get? name pairs).map change := by
  induction pairs with
  | nil => rfl
  | cons head rest ih =>
      obtain ⟨n, old⟩ := head
      rw [List.map_cons, get?_cons, get?_cons, ih]
      split <;> rfl

-----------------------------------------------------------------------------------------
-- Setting and placing
-----------------------------------------------------------------------------------------

/-- Setting a name changes its lookup only, by induction on the pairs. -/
theorem get?_set
    : get? other (set name value pairs) = if name = other then some value else get? other pairs := by
  induction pairs with
  | nil => simp [set, get?_cons]
  | cons head rest ih =>
      obtain ⟨n, old⟩ := head
      rw [set]
      by_cases same : n = name
      · subst same
        simp only [if_true, get?_cons]
        split <;> rfl
      · rw [if_neg same, get?_cons, ih, get?_cons]
        by_cases here : n = other
        · subst here
          simp [Ne.symm same]
        · simp [here]

/-- A new name is set at the end, by induction on the pairs. -/
theorem set_of_not_mem (absent : name ∉ names pairs)
    : set name value pairs = pairs ++ [(name, value)] := by
  induction pairs with
  | nil => rfl
  | cons head rest ih =>
      obtain ⟨n, old⟩ := head
      rw [names_cons, List.mem_cons, not_or] at absent
      obtain ⟨different, restAbsent⟩ := absent
      rw [set, if_neg (Ne.symm different), ih restAbsent, List.cons_append]

/-- Setting a listed name keeps all names, by induction on the pairs. -/
theorem names_set_of_mem (present : name ∈ names pairs)
    : names (set name value pairs) = names pairs := by
  induction pairs with
  | nil => simp at present
  | cons head rest ih =>
      obtain ⟨n, old⟩ := head
      rw [set]
      by_cases same : n = name
      · simp [same]
      · rcases List.mem_cons.mp present with here | later
        · exact absurd here.symm same
        · rw [if_neg same, names_cons, ih later, names_cons]

/-- Setting a name adds it at the end, if it is new. -/
theorem names_set
    : names (set name value pairs)
      = if name ∈ names pairs then names pairs else names pairs ++ [name] := by
  split
  · rename_i present
    exact names_set_of_mem present
  · rename_i absent
    rw [set_of_not_mem absent, names_append, names_cons, names_nil]

/-- Placing a name changes its lookup only, by induction on the pairs. -/
theorem get?_place
    : get? other (place name value pairs)
      = if name = other then some value else get? other pairs := by
  induction pairs with
  | nil => simp [place, get?_cons]
  | cons head rest ih =>
      obtain ⟨n, old⟩ := head
      rw [place]
      by_cases same : name = n
      · subst same
        simp only [if_true, get?_cons]
        split <;> rfl
      · rw [if_neg same]
        split
        · rfl
        · rw [get?_cons, ih, get?_cons]
          by_cases here : n = other
          · subst here
            simp [same]
          · simp [here]

-----------------------------------------------------------------------------------------
-- Ascending lists
-----------------------------------------------------------------------------------------

theorem Ascending.nodup_names (ascending : Ascending pairs) : (names pairs).Nodup := by
  rw [names, List.nodup_iff_pairwise_ne, List.pairwise_map]
  refine ascending.imp ?_
  intro first second less same
  exact String.lt_irrefl second.1 (same ▸ less)

/-- A name below all names of a list has no value there. -/
theorem get?_eq_none_of_lt (below : ∀ pair ∈ pairs, name < pair.1) : get? name pairs = none := by
  rw [get?_eq_none_iff]
  intro member
  obtain ⟨pair, pairMember, rfl⟩ := List.mem_map.mp member
  exact String.lt_irrefl _ (below pair pairMember)

/-- Ascending lists with the same lookups are equal, by induction on both: the first names agree
because the smaller one would have no value in the other list.
-/
theorem Ascending.ext (ascending : Ascending pairs) (moreAscending : Ascending more)
    (same : ∀ name, get? name pairs = get? name more)
    : pairs = more := by
  induction pairs generalizing more with
  | nil =>
      cases more with
      | nil => rfl
      | cons head rest => simpa [get?] using same head.1
  | cons first rest ih =>
      cases more with
      | nil => simpa [get?] using same first.1
      | cons second others =>
          obtain ⟨n, old⟩ := first
          obtain ⟨m, new⟩ := second
          obtain ⟨above, restAscending⟩ := List.pairwise_cons.mp ascending
          obtain ⟨othersAbove, othersAscending⟩ := List.pairwise_cons.mp moreAscending
          have atFirst := same n
          have atSecond := same m
          rw [get?_cons, get?_cons, if_pos rfl] at atFirst
          rw [get?_cons, get?_cons, if_pos rfl] at atSecond
          have names : m = n := by
            by_contra different
            rw [if_neg different] at atFirst
            rw [if_neg (Ne.symm different)] at atSecond
            have below : m < n := othersAbove _ (mem_of_get? atFirst.symm)
            have above : n < m := above _ (mem_of_get? atSecond)
            exact String.lt_irrefl _ (String.lt_trans below above)
          subst names
          rw [if_pos rfl, Option.some.injEq] at atFirst
          subst atFirst
          congr 1
          apply ih restAscending othersAscending
          intro name
          by_cases here : m = name
          · subst here
            rw [get?_eq_none_of_lt above, get?_eq_none_of_lt othersAbove]
          · simpa [get?_cons, here] using same name

end AddonPackager.Assoc

namespace AddonPackager.Dict

variable {α : Type} {key other : String} {value : α} {dict dict' : Dict α}

theorem get?_insert
    : (dict.insert key value).get? other = if key = other then some value else dict.get? other :=
  Assoc.get?_place

@[simp] theorem get?_empty : (empty : Dict α).get? key = none := rfl

theorem mem_keys_iff : key ∈ dict.keys ↔ (dict.get? key).isSome = true :=
  Assoc.isSome_get?_iff.symm

theorem mem_keys_insert : other ∈ (dict.insert key value).keys ↔ other = key ∨ other ∈ dict.keys := by
  rw [mem_keys_iff, mem_keys_iff, get?_insert]
  by_cases here : key = other
  · simp [here]
  · simp [here, Ne.symm here]

/-- Finite maps with the same lookups are equal. -/
theorem ext_get? (same : ∀ key, dict.get? key = dict'.get? key) : dict = dict' := by
  obtain ⟨pairs, ascending⟩ := dict
  obtain ⟨pairs', ascending'⟩ := dict'
  congr 1
  exact ascending.ext ascending' same

/-- Finite sets with the same elements are equal. -/
theorem ext_keys {set set' : Dict Unit} (same : ∀ key, key ∈ set.keys ↔ key ∈ set'.keys)
    : set = set' := by
  refine ext_get? fun key => ?_
  have both := same key
  rw [mem_keys_iff, mem_keys_iff] at both
  cases found : set.get? key with
  | none => cases found' : set'.get? key <;> simp_all
  | some value => cases found' : set'.get? key <;> simp_all

/-- Inserting keys one after the other adds all of them, by induction on them. -/
theorem mem_keys_foldl_insert {keys : List String} {set : Dict Unit}
    : key ∈ (keys.foldl (fun set key => set.insert key ()) set).keys
      ↔ key ∈ set.keys ∨ key ∈ keys := by
  induction keys generalizing set with
  | nil => simp
  | cons first rest ih =>
      rw [List.foldl_cons, ih, mem_keys_insert, List.mem_cons, or_comm (a := key = first),
        or_assoc]

/-- The listed pairs are those that lookups find. -/
theorem mem_toList_iff : (key, value) ∈ dict.toList ↔ dict.get? key = some value :=
  ⟨Assoc.get?_of_mem dict.ascending.nodup_names, Assoc.mem_of_get?⟩

/-- A map made of pairs has the last value of each key, by induction on the pairs. -/
theorem get?_ofList {pairs : List (String × α)}
    : (ofList pairs).get? key = Assoc.get? key pairs.reverse := by
  have general : ∀ (pairs : List (String × α)) (dict : Dict α),
      (pairs.foldl (fun dict pair => dict.insert pair.1 pair.2) dict).get? key
        = (Assoc.get? key pairs.reverse).or (dict.get? key) := by
    intro pairs
    induction pairs with
    | nil => simp
    | cons head rest ih =>
        obtain ⟨n, v⟩ := head
        intro dict
        rw [List.foldl_cons, ih, get?_insert, List.reverse_cons, Assoc.get?_append, Option.or_assoc,
          Assoc.get?_cons]
        split <;> simp
  simpa [ofList] using general pairs empty

end AddonPackager.Dict
