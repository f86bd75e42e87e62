import AddonPackager.Proofs.Text.Searching
import AddonPackager.Proofs.Text.Trimming
import AddonPackager.Proofs.Unicode.Blank
import AddonPackager.Script.Scan
import Mathlib.Data.Option.Basic

/-! The require calls of a script. A call counts where it stands free: at the start of the text or
directly behind a blank. The search passes a call as a whole, but no call stands free inside another
one, so it finds what a search would find that asks at every position.
-/

namespace AddonPackager.Script

open Text Unicode

variable {text rest after name call blanks previous : List Char} {position start : Nat}
  {free : Bool} {c : Char}

-----------------------------------------------------------------------------------------
-- Calls
-----------------------------------------------------------------------------------------

/-- How a require call is written: the opening, perhaps blanks, the name of the module between double
quotes, perhaps blanks, and the closing bracket.
-/
structure IsCall (name call : List Char) : Prop where
  nonempty : name ≠ []
  inside : ∀ c ∈ name, isModuleChar c = true
  parts
    : ∃ blanks ending,
        IsBlank blanks ∧ IsBlank ending
        ∧ call = "require(".toList ++ (blanks ++ '"' :: (name ++ '"' :: (ending ++ [')'])))

theorem isBlank_of_isModuleChar (member : isModuleChar c = true) : isBlank c = false := by
  apply isBlank_of_isEntityChar
  rw [CatalogFormat.isEntityChar, Bool.or_right_comm, ← isModuleChar, member]
  rfl

/-- A call that is found at the start of a text is written there. -/
theorem exists_isCall_of_requireCall? (found : requireCall? text = some (name, rest))
    : ∃ call, IsCall name call ∧ text = call ++ rest := by
  obtain ⟨inside, opened, found⟩ := Option.bind_eq_some_iff.mp found
  obtain ⟨named, quote, found⟩ := Option.bind_eq_some_iff.mp found
  obtain ⟨⟨⟩, nonempty, found⟩ := Option.bind_eq_some_iff.mp found
  obtain ⟨afterName, unquote, found⟩ := Option.bind_eq_some_iff.mp found
  obtain ⟨rest', closed, same⟩ := Option.bind_eq_some_iff.mp found
  cases same
  obtain ⟨blanks, blank, split⟩ := exists_append_trimStart inside
  obtain ⟨ending, endingBlank, endingSplit⟩ := exists_append_trimStart afterName
  rw [stripPrefix?_eq_some_iff] at opened quote unquote closed
  rw [Option.guard_eq_some'] at nonempty
  refine ⟨_, ⟨?_, ?_, blanks, ending, blank, endingBlank, rfl⟩, ?_⟩
  · intro empty
    simp [empty] at nonempty
  · exact List.all_eq_true.mp List.all_takeWhile
  · have namedSplit : named
        = named.takeWhile isModuleChar ++ '"' :: (ending ++ ')' :: rest) := by
      rw [endingSplit, closed] at unquote
      exact List.takeWhile_append_dropWhile.symm.trans (congrArg _ unquote)
    rw [opened, split, quote]
    simpa using namedSplit

/-- A call that is written at the start of a text is found there. -/
theorem requireCall?_append (isCall : IsCall name call)
    : requireCall? (call ++ rest) = some (name, rest) := by
  obtain ⟨nonempty, inside, blanks, ending, blank, endingBlank, rfl⟩ := isCall
  have split : "require(".toList ++ (blanks ++ '"' :: (name ++ '"' :: (ending ++ [')']))) ++ rest
      = "require(".toList ++ (blanks ++ '"' :: (name ++ '"' :: (ending ++ ')' :: rest))) := by
    simp
  have atName
      : stripPrefix? ['"'] (trimStart (blanks ++ '"' :: (name ++ '"' :: (ending ++ ')' :: rest))))
        = some (name ++ '"' :: (ending ++ ')' :: rest)) :=
    stripPrefix?_eq_some_iff.mpr (trimStart_append blank)
  have atEnd : stripPrefix? [')'] (trimStart (ending ++ ')' :: rest)) = some rest :=
    stripPrefix?_eq_some_iff.mpr (trimStart_append endingBlank)
  have taken : (name ++ '"' :: (ending ++ ')' :: rest)).takeWhile isModuleChar = name :=
    (List.takeWhile_append_of_pos inside).trans (List.append_nil name)
  have dropped : (name ++ '"' :: (ending ++ ')' :: rest)).dropWhile isModuleChar
      = '"' :: (ending ++ ')' :: rest) :=
    List.dropWhile_append_of_pos inside
  have named : guard ((!name.isEmpty) = true) = some () := by
    rw [Option.guard_eq_some']
    simpa using nonempty
  rw [requireCall?, split, stripPrefix?_append_self]
  refine Option.bind_eq_some_iff.mpr ⟨_, rfl, Option.bind_eq_some_iff.mpr ⟨_, atName, ?_⟩⟩
  rw [taken, dropped]
  exact Option.bind_eq_some_iff.mpr ⟨(), named, Option.bind_eq_some_iff.mpr ⟨_, rfl,
    Option.bind_eq_some_iff.mpr ⟨_, atEnd, rfl⟩⟩⟩

/-- A call is found at the start of a text exactly if it is written there. -/
theorem requireCall?_eq_some_iff
    : requireCall? text = some (name, rest) ↔ ∃ call, IsCall name call ∧ text = call ++ rest := by
  constructor
  · exact exists_isCall_of_requireCall?
  · rintro ⟨call, isCall, rfl⟩
    exact requireCall?_append isCall

theorem requireCall?_eq_none_of_ne (other : c ≠ 'r') : requireCall? (c :: rest) = none := by
  have absent : stripPrefix? "require(".toList (c :: rest) = none := if_neg (Ne.symm other)
  rw [requireCall?, absent]
  rfl

-----------------------------------------------------------------------------------------
-- Asking at every position
-----------------------------------------------------------------------------------------

/-- The calls in a text with their positions, where every position that stands free is asked. The
text starts at `position`, which stands free or not.
-/
def callsFrom (position : Nat) (free : Bool) : List Char → List (Nat × List Char)
  | [] => []
  | c :: rest =>
      let later := callsFrom (position + 1) (isBlank c) rest
      match requireCall? (c :: rest) with
      | some (name, _) => if free then (position, name) :: later else later
      | none => later

theorem callsFrom_cons_of_not_free
    : callsFrom position false (c :: rest) = callsFrom (position + 1) (isBlank c) rest := by
  rw [callsFrom]
  split <;> rfl

theorem callsFrom_of_no_call (absent : requireCall? text = none)
    : callsFrom position free text = callsFrom position false text := by
  cases text with
  | nil => rfl
  | cons c rest => simp only [callsFrom, absent]

theorem callsFrom_cons_of_call (found : requireCall? (c :: rest) = some (name, after))
    : callsFrom position true (c :: rest)
      = (position, name) :: callsFrom (position + 1) (isBlank c) rest := by
  simp only [callsFrom, found, if_true]

/-- Without blanks no position stands free, by induction on the text. -/
theorem callsFrom_append_of_solid (solid : ∀ c ∈ text, isBlank c = false)
    : callsFrom position false (text ++ rest) = callsFrom (position + text.length) false rest := by
  induction text generalizing position with
  | nil => rfl
  | cons c text ih =>
      obtain ⟨here, later⟩ := List.forall_mem_cons.mp solid
      rw [List.cons_append, callsFrom_cons_of_not_free, here, ih later, List.length_cons]
      congr 1
      omega

/-- What stands free behind blanks is no call unless it starts as one, by induction on the blanks. -/
theorem callsFrom_append_of_blank (blank : IsBlank blanks) (solid : isBlank c = false)
    (other : c ≠ 'r')
    : callsFrom position free (blanks ++ c :: rest)
      = callsFrom (position + blanks.length + 1) false rest := by
  induction blanks generalizing position free with
  | nil =>
      rw [List.nil_append, callsFrom_of_no_call (requireCall?_eq_none_of_ne other),
        callsFrom_cons_of_not_free, solid]
      rfl
  | cons first blanks ih =>
      obtain ⟨here, later⟩ := List.forall_mem_cons.mp blank
      have noCall : first ≠ 'r' := by
        rintro rfl
        cases here
      rw [List.cons_append, callsFrom_of_no_call (requireCall?_eq_none_of_ne noCall),
        callsFrom_cons_of_not_free, ih later, List.length_cons]
      congr 1
      omega

/-- Inside a call no other one stands free: the blanks in it are followed by a quote or the closing
bracket.
-/
theorem callsFrom_append_of_isCall (isCall : IsCall name call)
    : callsFrom position true (call ++ rest)
      = (position, name) :: callsFrom (position + call.length) false rest := by
  have found : requireCall? (call ++ rest) = some (name, rest) := requireCall?_append isCall
  obtain ⟨nonempty, inside, blanks, ending, blank, endingBlank, rfl⟩ := isCall
  have noBlank : "equire(".toList.all (fun c => !isBlank c) = true := by
    decide +kernel
  have opening : ∀ c ∈ "equire(".toList, isBlank c = false := by
    simpa only [List.all_eq_true, Bool.not_eq_true'] using noBlank
  have named : ∀ c ∈ name ++ ['"'], isBlank c = false := by
    intro c member
    rcases List.mem_append.mp member with inName | quote
    · exact isBlank_of_isModuleChar (inside c inName)
    · rw [List.mem_singleton.mp quote]
      rfl
  have split : "require(".toList ++ (blanks ++ '"' :: (name ++ '"' :: (ending ++ [')']))) ++ rest
      = 'r' :: ("equire(".toList
          ++ (blanks ++ '"' :: ((name ++ ['"']) ++ (ending ++ ')' :: rest)))) := by
    simp
  rw [split] at found ⊢
  rw [callsFrom_cons_of_call found, show isBlank 'r' = false from rfl,
    callsFrom_append_of_solid opening, callsFrom_append_of_blank blank rfl (by decide),
    callsFrom_append_of_solid named, callsFrom_append_of_blank endingBlank rfl (by decide)]
  congr 2
  simp
  omega

theorem requiresBehindBlank_of_some (blank : isBlank c = true)
    (found : requireCall? text = some (name, rest))
    : requiresBehindBlank (c :: text) = name :: requiresBehindBlank rest := by
  rw [requiresBehindBlank, if_pos blank]
  split
  · rename_i found'
    cases found.symm.trans found'
    rfl
  · rename_i absent
    cases found.symm.trans absent

theorem requiresBehindBlank_of_none (absent : requireCall? text = none)
    : requiresBehindBlank (c :: text) = requiresBehindBlank text := by
  rw [requiresBehindBlank]
  split
  · split
    · rename_i found
      cases found.symm.trans absent
    · rfl
  · rfl

/-- The search behind blanks finds every call that stands free, by induction along it. -/
theorem requiresBehindBlank_eq
    : requiresBehindBlank text = (callsFrom position false text).map Prod.snd := by
  induction text using requiresBehindBlank.induct generalizing position with
  | case1 =>
      rw [requiresBehindBlank]
      rfl
  | case2 c rest blank name after found _ ih =>
      obtain ⟨call, isCall, split⟩ := requireCall?_eq_some_iff.mp found
      rw [requiresBehindBlank_of_some blank found, callsFrom_cons_of_not_free, blank, split,
        callsFrom_append_of_isCall isCall, List.map_cons, ← ih]
  | case3 c rest _ absent ih =>
      rw [requiresBehindBlank_of_none absent, callsFrom_cons_of_not_free,
        callsFrom_of_no_call absent, ← ih]
  | case4 c rest notBlank ih =>
      rw [requiresBehindBlank, if_neg notBlank, callsFrom_cons_of_not_free,
        Bool.eq_false_iff.mpr notBlank, ← ih]

/-- The search over a script finds every call that stands free. -/
theorem requires_eq
    : requires text = (callsFrom 0 true text).map fun call => String.ofList call.2 := by
  rw [requires]
  split
  · rename_i name after found
    obtain ⟨call, isCall, rfl⟩ := requireCall?_eq_some_iff.mp found
    have later : requiresBehindBlank after
        = (callsFrom (0 + call.length) false after).map Prod.snd :=
      requiresBehindBlank_eq
    rw [callsFrom_append_of_isCall isCall, later]
    simp
  · rename_i absent
    have all : requiresBehindBlank text = (callsFrom 0 false text).map Prod.snd :=
      requiresBehindBlank_eq
    rw [callsFrom_of_no_call absent, all]
    simp

-----------------------------------------------------------------------------------------
-- Positions
-----------------------------------------------------------------------------------------

/-- Whether what follows a text stands free: the text is empty or ends with a blank. -/
def standsFree (before : List Char) : Bool :=
  before.getLast?.all isBlank

theorem standsFree_append_singleton : standsFree (previous ++ [c]) = isBlank c := by
  simp [standsFree]

/-- A call of a module stands free at a position of a text. -/
def RequiresAt (text : List Char) (position : Nat) (name : List Char) : Prop :=
  ∃ before call after,
    text = before ++ call ++ after
    ∧ before.length = position
    ∧ standsFree before = true
    ∧ IsCall name call

/-- What is listed of a text is the call at its start, if that stands free, and what is listed of the
rest.
-/
theorem mem_callsFrom_cons {listed : Nat × List Char}
    : listed ∈ callsFrom start free (c :: rest)
      ↔ (free = true ∧ ∃ name after,
            requireCall? (c :: rest) = some (name, after) ∧ listed = (start, name))
        ∨ listed ∈ callsFrom (start + 1) (isBlank c) rest := by
  rw [callsFrom]
  cases requireCall? (c :: rest) with
  | none => simp
  | some found =>
      obtain ⟨name, after⟩ := found
      cases free <;> simp

/-- Every call that stands free is listed, and no other, by induction on the text. -/
theorem mem_callsFrom_iff
    : (position, name) ∈ callsFrom previous.length (standsFree previous) text
      ↔ ∃ before call after,
          text = before ++ call ++ after
          ∧ (previous ++ before).length = position
          ∧ standsFree (previous ++ before) = true
          ∧ IsCall name call := by
  induction text generalizing previous with
  | nil =>
      constructor
      · intro member
        cases member
      · rintro ⟨before, call, after, split, -, -, -, -, blanks, ending, -, -, rfl⟩
        simp at split
  | cons c rest ih =>
      have later := @ih (previous ++ [c])
      rw [standsFree_append_singleton, List.length_append, List.length_singleton] at later
      simp only [List.append_assoc, List.singleton_append] at later ⊢
      rw [mem_callsFrom_cons, later]
      constructor
      · rintro (⟨free, name', after, found, here⟩ | ⟨before, call, after, split, found⟩)
        · cases here
          obtain ⟨call, isCall, split⟩ := requireCall?_eq_some_iff.mp found
          exact ⟨[], call, after, split, by simp, by simpa using free, isCall⟩
        · exact ⟨c :: before, call, after, by simp [split], found⟩
      · rintro ⟨before, call, after, split, here, free, isCall⟩
        cases before with
        | nil =>
            rw [List.append_nil] at here free
            have found := requireCall?_eq_some_iff.mpr ⟨call, isCall, split⟩
            exact .inl ⟨free, name, after, found, by rw [here]⟩
        | cons first before =>
            obtain ⟨rfl, behind⟩ := List.cons.inj split
            exact .inr ⟨before, call, after, behind, here, free, isCall⟩

/-- Positions of a text are not before its start, by induction on the text. -/
theorem le_of_mem_callsFrom {listed : Nat × List Char}
    (member : listed ∈ callsFrom start free text)
    : start ≤ listed.1 := by
  induction text generalizing start free with
  | nil => cases member
  | cons c rest ih =>
      rcases mem_callsFrom_cons.mp member with ⟨-, name, after, -, rfl⟩ | later
      · exact Nat.le_refl start
      · exact Nat.le_of_succ_le (ih later)

/-- Calls are listed in the order of their positions, by induction on the text. -/
theorem pairwise_callsFrom : (callsFrom start free text).Pairwise fun a b => a.1 < b.1 := by
  induction text generalizing start free with
  | nil => exact .nil
  | cons c rest ih =>
      rw [callsFrom]
      split
      · split
        · exact List.pairwise_cons.mpr ⟨fun _ => le_of_mem_callsFrom, ih⟩
        · exact ih
      · exact ih

/-- A scan of a script lists the modules of all calls that stand free, in the order of the positions
at which they do. No call hides another one.
-/
theorem exists_calls_scan (text : List Char)
    : ∃ calls : List (Nat × List Char),
        (calls.Pairwise fun a b => a.1 < b.1)
        ∧ (∀ position name, (position, name) ∈ calls ↔ RequiresAt text position name)
        ∧ (scan text).requires = calls.map fun call => String.ofList call.2 :=
  ⟨callsFrom 0 true text, pairwise_callsFrom,
    fun position name => @mem_callsFrom_iff text name [] position, requires_eq⟩

end AddonPackager.Script
