/-! Lists of named values. Names are kept either in the order in which they were first given or
in ascending order.
-/

namespace AddonPackager.Assoc

variable {α : Type} {name : String} {value : α} {pairs : List (String × α)}

def get? (name : String) : List (String × α) → Option α
  | [] => none
  | (n, value) :: rest => if n = name then some value else get? name rest

def names (pairs : List (String × α)) : List String :=
  pairs.map Prod.fst

/-- A value found under a name is in the list. -/
theorem mem_of_get? (found : get? name pairs = some value) : (name, value) ∈ pairs := by
  induction pairs with
  | nil => simp [get?] at found
  | cons head rest ih =>
      obtain ⟨n, old⟩ := head
      rw [get?] at found
      split at found
      · simp_all
      · exact List.mem_cons_of_mem _ (ih found)

/-- The pairs without those of a name. -/
def erase (name : String) (pairs : List (String × α)) : List (String × α) :=
  pairs.filter (·.1 != name)

/-- Erasing a name that is there shortens the list. -/
theorem length_erase_lt (found : get? name pairs = some value)
    : (erase name pairs).length < pairs.length := by
  refine List.length_filter_lt_length_iff_exists.mpr ⟨(name, value), mem_of_get? found, ?_⟩
  simp

/-! Order of first mention -/

/-- Gives a name a value: in its place if the name is there, else at the end. -/
def set (name : String) (value : α) : List (String × α) → List (String × α)
  | [] => [(name, value)]
  | (n, old) :: rest => if n = name then (n, value) :: rest else (n, old) :: set name value rest

/-! Ascending order -/

/-- Names strictly ascend. -/
def Ascending (pairs : List (String × α)) : Prop :=
  pairs.Pairwise fun a b => a.1 < b.1

/-- Puts a pair in its place; an old value of the name is replaced. -/
def place (name : String) (value : α) : List (String × α) → List (String × α)
  | [] => [(name, value)]
  | (n, old) :: rest =>
      if name = n then (name, value) :: rest
      else if name < n then (name, value) :: (n, old) :: rest
      else (n, old) :: place name value rest

/-- A placed list holds the new pair and old ones only. -/
theorem mem_place {pair : String × α} (member : pair ∈ place name value pairs)
    : pair = (name, value) ∨ pair ∈ pairs := by
  induction pairs with
  | nil => simpa [place] using member
  | cons head rest ih =>
      obtain ⟨n, old⟩ := head
      rw [place] at member
      split at member
      · rcases List.mem_cons.mp member with h | h
        · exact .inl h
        · exact .inr (List.mem_cons_of_mem _ h)
      · split at member
        · rcases List.mem_cons.mp member with h | h
          · exact .inl h
          · exact .inr h
        · rcases List.mem_cons.mp member with h | h
          · exact .inr (h ▸ List.mem_cons_self)
          · exact (ih h).imp_right (List.mem_cons_of_mem _)

theorem Ascending.place (ascending : Ascending pairs)
    : Ascending (Assoc.place name value pairs) := by
  induction pairs with
  | nil => simp [Assoc.place, Ascending]
  | cons head rest ih =>
      obtain ⟨n, old⟩ := head
      obtain ⟨below, restAscending⟩ := List.pairwise_cons.mp ascending
      rw [Assoc.place]
      split
      · rename_i same
        subst same
        exact List.pairwise_cons.mpr ⟨below, restAscending⟩
      · rename_i other
        split
        · rename_i less
          refine List.pairwise_cons.mpr ⟨?_, ascending⟩
          intro pair member
          rcases List.mem_cons.mp member with h | h
          · exact h ▸ less
          · exact String.lt_trans less (below pair h)
        · rename_i notLess
          refine List.pairwise_cons.mpr ⟨?_, ih restAscending⟩
          intro pair member
          rcases mem_place member with h | h
          · subst h
            rcases Classical.em (n < name) with less | notGreater
            · exact less
            · exact absurd (String.le_antisymm notGreater notLess) other
          · exact below pair h

end AddonPackager.Assoc
