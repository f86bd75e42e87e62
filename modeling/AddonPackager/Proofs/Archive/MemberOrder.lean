import AddonPackager.Build.Output
import AddonPackager.Proofs.Archive.Container
import AddonPackager.Proofs.Dict.Lookup

/-! The members of an archive. They are the files of the package in the one order in which the
signature block is last, the others ascend by sort key, and paths decide where keys do not differ.
-/

namespace AddonPackager

variable {κ : Type} {le : κ → κ → Bool} {sortKey : String → κ}

-----------------------------------------------------------------------------------------
-- The order of paths
-----------------------------------------------------------------------------------------

/-- Sorting leaves elements that may stand in either order as they stood. -/
theorem filter_mergeSort_of_same {α : Type} {keep : α → Bool} {precedes : α → α → Bool}
    {elements : List α}
    (trans : ∀ a b c, precedes a b = true → precedes b c = true → precedes a c = true)
    (total : ∀ a b, (precedes a b || precedes b a) = true)
    (same : ∀ a b, keep a = true → keep b = true → precedes a b = true)
    : (elements.mergeSort precedes).filter keep = elements.filter keep := by
  have sorted : (elements.filter keep).Pairwise fun a b => precedes a b = true :=
    List.pairwise_of_forall_mem_list fun a memberA b memberB =>
      same a b (List.mem_filter.mp memberA).2 (List.mem_filter.mp memberB).2
  have inside : (elements.filter keep).Sublist (elements.mergeSort precedes) :=
    List.sublist_mergeSort trans total sorted List.filter_sublist
  have filtered := inside.filter keep
  rw [List.filter_filter] at filtered
  simp only [Bool.and_self] at filtered
  exact (filtered.eq_of_length ((List.mergeSort_perm _ _).filter keep).length_eq.symm).symm

namespace Archive

variable {paths : List String} {a b : String}

/-- The archive order is transitive if the order of the keys is. -/
theorem precedes_trans (trans : ∀ x y z, le x y = true → le y z = true → le x z = true)
    (a b c : String) (first : precedes le sortKey a b = true)
    (second : precedes le sortKey b c = true)
    : precedes le sortKey a c = true := by
  simp only [precedes] at first second ⊢
  by_cases blockFirst : a = signatureBlockPath
  · rw [if_pos blockFirst, decide_eq_true_eq] at first
    rw [if_pos first] at second
    rw [if_pos blockFirst]
    exact second
  · rw [if_neg blockFirst, Bool.or_eq_true, decide_eq_true_eq] at first
    rw [if_neg blockFirst, Bool.or_eq_true, decide_eq_true_eq]
    by_cases blockSecond : b = signatureBlockPath
    · rw [if_pos blockSecond, decide_eq_true_eq] at second
      exact .inl second
    · rw [if_neg blockSecond, Bool.or_eq_true, decide_eq_true_eq] at second
      exact second.imp_right (trans _ _ _ (first.resolve_left blockSecond))

/-- Of two paths one may come before the other if that holds for their keys. -/
theorem precedes_total (total : ∀ x y, (le x y || le y x) = true) (a b : String)
    : (precedes le sortKey a b || precedes le sortKey b a) = true := by
  have keys := total (sortKey a) (sortKey b)
  simp only [precedes]
  split <;> split <;> simp_all

/-- Paths come out in archive order. -/
theorem pairwise_order (trans : ∀ x y z, le x y = true → le y z = true → le x z = true)
    (total : ∀ x y, (le x y || le y x) = true)
    : (order le sortKey paths).Pairwise fun a b => precedes le sortKey a b = true :=
  List.pairwise_mergeSort (precedes_trans trans) (precedes_total total) paths

theorem textLe_trans (x y z : String) (first : textLe x y = true) (second : textLe y z = true)
    : textLe x z = true := by
  simp only [textLe, decide_eq_true_eq] at *
  exact String.le_trans first second

theorem textLe_total (x y : String) : (textLe x y || textLe y x) = true := by
  simpa [textLe] using String.le_total x y

/-- Whether a path stands before another one in an archive: the signature block stands before
none and behind all, the others ascend by sort key, and by themselves where the keys do not differ.
-/
def IsBefore (le : κ → κ → Bool) (sortKey : String → κ) (a b : String) : Prop :=
  a ≠ signatureBlockPath
    ∧ (b = signatureBlockPath
      ∨ le (sortKey a) (sortKey b) = true
        ∧ (le (sortKey b) (sortKey a) = true → a < b))

instance : Decidable (IsBefore le sortKey a b) :=
  inferInstanceAs (Decidable (_ ∧ _))

theorem IsBefore.not_symm (first : IsBefore le sortKey a b) : ¬ IsBefore le sortKey b a := by
  intro second
  obtain ⟨key, tie⟩ := first.2.resolve_left second.1
  obtain ⟨backKey, backTie⟩ := second.2.resolve_left first.1
  exact String.lt_irrefl a (String.lt_trans (tie backKey) (backTie key))

/-- The members other than the signature block whose keys do not differ from that of a path. -/
def isTied (le : κ → κ → Bool) (sortKey : String → κ) (a path : String) : Bool :=
  path ≠ signatureBlockPath && le (sortKey path) (sortKey a) && le (sortKey a) (sortKey path)

theorem precedes_of_isTied (trans : ∀ x y z, le x y = true → le y z = true → le x z = true)
    (b c : String) (first : isTied le sortKey a b = true) (second : isTied le sortKey a c = true)
    : precedes le sortKey b c = true := by
  simp only [isTied, Bool.and_eq_true, decide_eq_true_eq] at first second
  rw [precedes, if_neg first.1.1, trans _ _ _ first.1.2 second.2, Bool.or_true]

/-- Ascending paths are put in archive order. That paths decide where keys do not differ is what a
stable sorting leaves of their order.
-/
theorem pairwise_isBefore_order
    (trans : ∀ x y z, le x y = true → le y z = true → le x z = true)
    (total : ∀ x y, (le x y || le y x) = true) (ascending : paths.Pairwise (· < ·))
    : (order le sortKey paths).Pairwise (IsBefore le sortKey) := by
  rw [List.pairwise_iff_forall_sublist]
  intro a b pair
  have distinct : (order le sortKey paths).Nodup :=
    (List.mergeSort_perm _ _).nodup_iff.mpr (ascending.imp String.ne_of_lt)
  have different : a ≠ b := by
    simpa using pair.nodup distinct
  have first : precedes le sortKey a b = true :=
    List.pairwise_iff_forall_sublist.mp (pairwise_order trans total) pair
  have notBlock : a ≠ signatureBlockPath := by
    intro isBlock
    rw [precedes, if_pos isBlock, decide_eq_true_eq] at first
    exact different (isBlock.trans first.symm)
  refine ⟨notBlock, ?_⟩
  by_cases last : b = signatureBlockPath
  · exact .inl last
  · have key : le (sortKey a) (sortKey b) = true := by
      simpa [precedes, notBlock, last] using first
    refine .inr ⟨key, fun backKey => ?_⟩
    have selfKey : le (sortKey a) (sortKey a) = true := by
      simpa using total (sortKey a) (sortKey a)
    have tied : (order le sortKey paths).filter (isTied le sortKey a)
        = paths.filter (isTied le sortKey a) :=
      filter_mergeSort_of_same (precedes_trans trans) (precedes_total total)
        (precedes_of_isTied trans)
    have kept : [a, b].filter (isTied le sortKey a) = [a, b] := by
      simp [isTied, notBlock, last, key, backKey, selfKey]
    have inPaths : [a, b].Sublist paths := by
      have filtered := pair.filter (isTied le sortKey a)
      rw [kept, tied] at filtered
      exact filtered.trans List.filter_sublist
    exact List.pairwise_iff_forall_sublist.mp ascending inPaths

end Archive

-----------------------------------------------------------------------------------------
-- The members of a package
-----------------------------------------------------------------------------------------

namespace Package

open Archive

variable {package : Package} {members others : List Member}

/-- The members of an archive are the files of the package. -/
theorem membersBy_perm_files : (package.membersBy le sortKey).Perm package.files := by
  have each : ∀ file ∈ package.files,
      (file.1, (package.get? file.1).getD .empty) = id file := by
    intro file member
    rw [get?, Dict.mem_toList_iff.mp member]
    rfl
  have same : (package.paths.map fun path => (path, (package.get? path).getD .empty))
      = package.files := by
    rw [paths, Dict.keys, Assoc.names, List.map_map]
    exact (List.map_congr_left each).trans (List.map_id _)
  rw [membersBy, ← same]
  exact (List.mergeSort_perm _ _).map _

theorem pairwise_paths : package.paths.Pairwise (· < ·) :=
  List.pairwise_map.mpr package.entries.ascending

/-- The members of an archive are in archive order. -/
theorem pairwise_membersBy (trans : ∀ x y z, le x y = true → le y z = true → le x z = true)
    (total : ∀ x y, (le x y || le y x) = true)
    : (package.membersBy le sortKey).Pairwise fun a b => IsBefore le sortKey a.1 b.1 := by
  rw [membersBy, List.pairwise_map]
  exact pairwise_isBefore_order trans total pairwise_paths

/-- The members of an archive, said without sorting: every file of the package once with its own
bytes, the signature block last, the others ascending by sort key, and by path where the keys do
not differ.
-/
structure IsArchivedAs (package : Package) (le : κ → κ → Bool) (sortKey : String → κ)
    (members : List Member) : Prop where
  complete : members.Perm package.files
  distinct : (members.map Prod.fst).Nodup
  own : ∀ path data, (path, data) ∈ members ↔ package.get? path = some data
  blockLast
    : ∀ data, package.get? signatureBlockPath = some data →
        members.getLast? = some (signatureBlockPath, data)
  ascending
    : (members.filter (·.1 ≠ signatureBlockPath)).Pairwise fun a b =>
        le (sortKey a.1) (sortKey b.1) = true
  tiesAscending
    : (members.filter (·.1 ≠ signatureBlockPath)).Pairwise fun a b =>
        le (sortKey b.1) (sortKey a.1) = true → a.1 < b.1

theorem IsArchivedAs.of_pairwise (complete : members.Perm package.files)
    (inOrder : members.Pairwise fun a b => IsBefore le sortKey a.1 b.1)
    : package.IsArchivedAs le sortKey members := by
  have distinct : (members.map Prod.fst).Nodup :=
    (complete.map Prod.fst).nodup_iff.mpr package.entries.ascending.nodup_names
  have own : ∀ path data, (path, data) ∈ members ↔ package.get? path = some data :=
    fun path data => complete.mem_iff.trans Dict.mem_toList_iff
  have keys : (members.filter (·.1 ≠ signatureBlockPath)).Pairwise fun a b =>
      le (sortKey a.1) (sortKey b.1) = true
        ∧ (le (sortKey b.1) (sortKey a.1) = true → a.1 < b.1) := by
    refine (inOrder.filter _).imp_of_mem ?_
    intro a b _ member before
    have notBlock := (List.mem_filter.mp member).2
    exact before.2.resolve_left (by simpa using notBlock)
  refine ⟨complete, distinct, own, ?_, keys.imp And.left, keys.imp And.right⟩
  intro data found
  -- Nothing stands behind the signature block.
  obtain ⟨front, behind, split⟩ := List.append_of_mem ((own _ _).mpr found)
  cases behind with
  | nil => rw [split, List.getLast?_concat]
  | cons next rest =>
      rw [split, List.pairwise_append, List.pairwise_cons] at inOrder
      exact absurd rfl (inOrder.2.1.1 next List.mem_cons_self).1

theorem IsArchivedAs.pairwise (archived : package.IsArchivedAs le sortKey members)
    : members.Pairwise fun a b => IsBefore le sortKey a.1 b.1 := by
  rw [List.pairwise_iff_forall_sublist]
  intro a b pair
  have notBlock : a.1 ≠ signatureBlockPath := by
    intro isBlock
    obtain ⟨front, behind, split, inFront, later⟩ := List.cons_sublist_iff.mp pair
    have last : members.getLast? = some a := by
      have found := (archived.own a.1 a.2).mp (pair.subset List.mem_cons_self)
      rw [isBlock] at found
      rw [archived.blockLast a.2 found, ← isBlock]
    have more : behind ≠ [] := List.ne_nil_of_mem (later.subset List.mem_cons_self)
    rw [split, List.getLast?_append_of_ne_nil _ more] at last
    have apart := archived.distinct.of_map
    rw [split, List.nodup_append] at apart
    exact apart.2.2 a inFront a (List.mem_of_getLast? last) rfl
  refine ⟨notBlock, ?_⟩
  by_cases last : b.1 = signatureBlockPath
  · exact .inl last
  · have kept : [a, b].Sublist (members.filter (·.1 ≠ signatureBlockPath)) := by
      simpa [notBlock, last] using pair.filter (·.1 ≠ signatureBlockPath)
    exact .inr ⟨List.pairwise_iff_forall_sublist.mp archived.ascending kept,
      List.pairwise_iff_forall_sublist.mp archived.tiesAscending kept⟩

/-- No two orders of the members fulfil this. -/
theorem IsArchivedAs.unique (archived : package.IsArchivedAs le sortKey members)
    (again : package.IsArchivedAs le sortKey others)
    : members = others :=
  List.Perm.eq_of_pairwise (fun _ _ _ _ first second => absurd second first.not_symm)
    archived.pairwise again.pairwise (archived.complete.trans again.complete.symm)

/-- Whatever the sort key, an archive holds every file of the package once with its own bytes, the
signature block last, the others ascending by sort key, and by path where the keys do not differ;
only one list of members does. What was written is read back, as long as it fits into its fields.
-/
theorem isArchivedAs_membersBy (package : Package) (sortKey : String → κ)
    (trans : ∀ x y z, le x y = true → le y z = true → le x z = true)
    (total : ∀ x y, (le x y || le y x) = true)
    : package.IsArchivedAs le sortKey (package.membersBy le sortKey)
      ∧ (∀ members, package.IsArchivedAs le sortKey members →
          members = package.membersBy le sortKey)
      ∧ ((∀ member ∈ package.membersBy le sortKey, Fits member) →
          decode? (encode (package.membersBy le sortKey))
            = some (package.membersBy le sortKey)) := by
  have archived : package.IsArchivedAs le sortKey (package.membersBy le sortKey) :=
    .of_pairwise membersBy_perm_files (pairwise_membersBy trans total)
  exact ⟨archived, fun members others => others.unique archived, decode?_encode⟩

/-- A signed package in which two scripts have names of the same length. -/
def signedScripts : Package :=
  (((Package.empty ⟨[], []⟩).put "c.js" .empty |>.put "bb.js" .empty).put "a.js" .empty).put
    signatureBlockPath .empty

/-- Sorted by the length of their names, `a.js` and `c.js` stand in the order of their paths, and
the signature block is last.
-/
theorem isArchivedAs_membersBy_length
    : (∀ x y z : Nat, decide (x ≤ y) = true → decide (y ≤ z) = true → decide (x ≤ z) = true)
      ∧ (∀ x y : Nat, (decide (x ≤ y) || decide (y ≤ x)) = true)
      ∧ signedScripts.membersBy (fun x y => decide (x ≤ y)) String.length
        = [("a.js", .empty), ("c.js", .empty), ("bb.js", .empty),
          (signatureBlockPath, .empty)] := by
  have trans : ∀ x y z : Nat, decide (x ≤ y) = true → decide (y ≤ z) = true →
      decide (x ≤ z) = true := by
    simp only [decide_eq_true_eq]
    exact fun x y z => Nat.le_trans
  have total : ∀ x y : Nat, (decide (x ≤ y) || decide (y ≤ x)) = true := by
    simpa using Nat.le_total
  have listed : signedScripts.IsArchivedAs (fun x y => decide (x ≤ y)) String.length
      [("a.js", .empty), ("c.js", .empty), ("bb.js", .empty), (signatureBlockPath, .empty)] :=
    .of_pairwise (by decide +kernel) (by decide +kernel)
  exact ⟨trans, total,
    ((isArchivedAs_membersBy signedScripts String.length trans total).2.1 _ listed).symm⟩

end Package

end AddonPackager
