import AddonPackager.Proofs.Contributor.Harvesting
import Mathlib.Data.List.Nodup
import Mathlib.Data.List.Pairwise
import Mathlib.Data.String.Basic

/-! The order of literal contributors. They stand in the order of the names of their options as
texts. That is the order of the numbers that the names denote as long as the two orders agree on
the names, as they do on names of one length.
-/

namespace AddonPackager.Contributor

variable {tree : FileTree} {metadata : Metadata} {items : List MetadataItem}
  {contributors : List String} {warnings : List Warning}

-----------------------------------------------------------------------------------------
-- Numbers
-----------------------------------------------------------------------------------------

/-- The number that a name of digits denotes. -/
def number (name : String) : Nat :=
  Nat.ofDigitChars 10 name.toList 0

variable {c d : Char} {digits moreDigits : List Char}

theorem ofDigitChars_cons
    : Nat.ofDigitChars 10 (c :: digits) 0
      = 10 ^ digits.length * (c.toNat - 48) + Nat.ofDigitChars 10 digits 0 := by
  rw [Nat.ofDigitChars_cons, Nat.ofDigitChars_eq_ofDigitChars_zero, Nat.mul_zero, Nat.zero_add]
  rfl

theorem toNat_of_isDigit (digit : c.isDigit = true) : 48 ≤ c.toNat ∧ c.toNat ≤ 57 := by
  simp only [Char.isDigit, Bool.and_eq_true, decide_eq_true_eq, ge_iff_le,
    UInt32.le_iff_toNat_le] at digit
  exact digit

/-- Digits denote less than a one and as many zeros, by induction on them. -/
theorem ofDigitChars_lt (decimal : ∀ c ∈ digits, c.isDigit = true)
    : Nat.ofDigitChars 10 digits 0 < 10 ^ digits.length := by
  induction digits with
  | nil => simp
  | cons c digits ih =>
      obtain ⟨digit, rest⟩ := List.forall_mem_cons.mp decimal
      have small : c.toNat - 48 ≤ 9 := by
        have := toNat_of_isDigit digit
        omega
      have bound := Nat.mul_le_mul_left (10 ^ digits.length) small
      have later := ih rest
      rw [ofDigitChars_cons, List.length_cons, Nat.pow_succ]
      omega

/-- Of two numbers with as many digits the smaller one is the smaller text, by induction on the
digits: the first ones that differ decide in both orders.
-/
theorem lt_of_ofDigitChars_lt (decimal : ∀ c ∈ digits, c.isDigit = true)
    (moreDecimal : ∀ c ∈ moreDigits, c.isDigit = true)
    (sameLength : digits.length = moreDigits.length)
    (less : Nat.ofDigitChars 10 digits 0 < Nat.ofDigitChars 10 moreDigits 0)
    : digits < moreDigits := by
  induction digits generalizing moreDigits with
  | nil =>
      cases moreDigits with
      | nil => simp at less
      | cons d moreDigits => simp at sameLength
  | cons c digits ih =>
      cases moreDigits with
      | nil => simp at sameLength
      | cons d moreDigits =>
          obtain ⟨digit, rest⟩ := List.forall_mem_cons.mp decimal
          obtain ⟨moreDigit, moreRest⟩ := List.forall_mem_cons.mp moreDecimal
          rw [List.length_cons, List.length_cons, Nat.add_right_cancel_iff] at sameLength
          rw [ofDigitChars_cons, ofDigitChars_cons, sameLength] at less
          have low := toNat_of_isDigit digit
          have moreLow := toNat_of_isDigit moreDigit
          have moreSmall := ofDigitChars_lt moreRest
          rw [List.cons_lt_cons_iff]
          rcases Nat.lt_trichotomy c.toNat d.toNat with first | same | last
          · exact .inl (Char.lt_def.mpr first)
          · rw [same] at less
            exact .inr ⟨Char.toNat_inj.mp same,
              ih rest moreRest sameLength (Nat.lt_of_add_lt_add_left less)⟩
          · -- A larger first digit outweighs all that follow.
            have bound : 10 ^ moreDigits.length * (d.toNat - 48 + 1)
                ≤ 10 ^ moreDigits.length * (c.toNat - 48) :=
              Nat.mul_le_mul_left _ (by omega)
            rw [Nat.mul_add_one] at bound
            omega

-----------------------------------------------------------------------------------------
-- Literal options
-----------------------------------------------------------------------------------------

/-- The options of the section whose names consist of digits. -/
def literalItems (metadata : Metadata) : List MetadataItem :=
  (metadata.items sectionName).filter isLiteral

/-- No two of the names denote one number. -/
def HaveDistinctNumbers (items : List MetadataItem) : Prop :=
  (items.map fun item => number item.key).Nodup

instance : Decidable (HaveDistinctNumbers items) :=
  inferInstanceAs (Decidable (List.Nodup _))

/-- Of two of the names, the one that denotes the smaller number is the smaller text. -/
def HaveNumericNames (items : List MetadataItem) : Prop :=
  ∀ a ∈ items, ∀ b ∈ items, number a.key < number b.key → a.key < b.key

instance : Decidable (HaveNumericNames items) :=
  inferInstanceAs (Decidable (∀ a ∈ items, ∀ b ∈ items, _))

/-- Names of one length are texts in the order of their numbers. -/
theorem haveNumericNames_of_length
    (sameLength : ∀ a ∈ literalItems metadata, ∀ b ∈ literalItems metadata,
      a.key.length = b.key.length)
    : HaveNumericNames (literalItems metadata) := by
  intro a memberA b memberB less
  have digitsA := (List.mem_filter.mp memberA).2
  have digitsB := (List.mem_filter.mp memberB).2
  rw [isLiteral, List.all_eq_true] at digitsA digitsB
  rw [String.lt_iff_toList_lt]
  refine lt_of_ofDigitChars_lt digitsA digitsB ?_ less
  rw [String.length_toList, String.length_toList]
  exact sameLength a memberA b memberB

/-- The literal options in the order in which their values are listed. -/
def listedLiterals (metadata : Metadata) : List MetadataItem :=
  (sortedItems metadata).filter isLiteral

theorem listedLiterals_perm : (listedLiterals metadata).Perm (literalItems metadata) :=
  sortedItems_perm.filter _

theorem pairwise_sortedItems : (sortedItems metadata).Pairwise fun a b => a.key ≤ b.key := by
  have sorted : (sortedItems metadata).Pairwise fun a b => decide (a.key ≤ b.key) = true := by
    refine List.pairwise_mergeSort ?_ ?_ _
    · simp only [decide_eq_true_eq]
      exact fun a b c => String.le_trans
    · intro a b
      simpa using String.le_total a.key b.key
  simpa using sorted

/-- Options whose names denote different numbers are listed in the order of their names as texts. -/
theorem pairwise_listedLiterals (distinct : HaveDistinctNumbers (literalItems metadata))
    : (listedLiterals metadata).Pairwise fun a b =>
        a.key < b.key ∧ number a.key ≠ number b.key := by
  have numbers : ((listedLiterals metadata).map fun item => number item.key).Nodup :=
    (listedLiterals_perm.map _).nodup_iff.mpr distinct
  refine ((pairwise_sortedItems.filter _).and (List.pairwise_map.mp numbers)).imp ?_
  rintro a b ⟨below, different⟩
  exact ⟨Std.lt_of_le_of_ne below fun same => different (congrArg number same), different⟩

/-- They are listed in the order of their numbers exactly if that is the order of their names. -/
theorem pairwise_number_iff (distinct : HaveDistinctNumbers (literalItems metadata))
    : ((listedLiterals metadata).Pairwise fun a b => number a.key < number b.key)
      ↔ HaveNumericNames (literalItems metadata) := by
  have texts := pairwise_listedLiterals distinct
  constructor
  · intro ascending
    have forward : (listedLiterals metadata).Pairwise fun a b =>
        number a.key < number b.key → a.key < b.key :=
      texts.imp fun below _ => below.1
    have backward : (listedLiterals metadata).Pairwise fun a b =>
        number b.key < number a.key → b.key < a.key :=
      ascending.imp fun less more => absurd more (Nat.lt_asymm less)
    have everywhere := forward.forall_of_forall_of_flip
      (fun a _ less => absurd less (Nat.lt_irrefl _)) backward
    intro a memberA b memberB
    exact everywhere (listedLiterals_perm.mem_iff.mpr memberA)
      (listedLiterals_perm.mem_iff.mpr memberB)
  · intro agrees
    refine texts.imp_of_mem ?_
    rintro a b memberA memberB ⟨below, different⟩
    refine Nat.lt_of_not_le fun above => ?_
    have behind := agrees b (listedLiterals_perm.mem_iff.mp memberB) a
      (listedLiterals_perm.mem_iff.mp memberA) (Nat.lt_of_le_of_ne above different.symm)
    exact String.lt_irrefl _ (String.lt_trans below behind)

-----------------------------------------------------------------------------------------
-- The first contributors
-----------------------------------------------------------------------------------------

/-- The contributors start with the values of the literal options in the order of the numbers that
the names of the options denote.
-/
def StartsNumbered (metadata : Metadata) (contributors : List String) : Prop :=
  ∃ (options : List MetadataItem) (rest : List String),
    options.Perm (literalItems metadata)
    ∧ (options.Pairwise fun a b => number a.key < number b.key)
    ∧ contributors = options.map (·.value) ++ rest

theorem exists_append_of_read (done : read tree metadata = .ok (contributors, warnings))
    : ∃ rest, contributors = (listedLiterals metadata).map (·.value) ++ rest := by
  obtain ⟨names, _, same, -⟩ := exists_read_of_isReadable (isReadable_of_read done)
  cases done.symm.trans same
  exact ⟨sortNames names, rfl⟩

theorem startsNumbered_of_haveNumericNames (distinct : HaveDistinctNumbers (literalItems metadata))
    (done : read tree metadata = .ok (contributors, warnings))
    (agrees : HaveNumericNames (literalItems metadata))
    : StartsNumbered metadata contributors := by
  obtain ⟨rest, split⟩ := exists_append_of_read done
  exact ⟨listedLiterals metadata, rest, listedLiterals_perm,
    (pairwise_number_iff distinct).mpr agrees, split⟩

/-- Different values show the order of their options. -/
theorem haveNumericNames_of_startsNumbered
    (distinct : HaveDistinctNumbers (literalItems metadata))
    (differentValues : ((literalItems metadata).map (·.value)).Nodup)
    (done : read tree metadata = .ok (contributors, warnings))
    (numbered : StartsNumbered metadata contributors)
    : HaveNumericNames (literalItems metadata) := by
  obtain ⟨rest, split⟩ := exists_append_of_read done
  obtain ⟨options, others, perm, ascending, numberedSplit⟩ := numbered
  have samePerm : options.Perm (listedLiterals metadata) := perm.trans listedLiterals_perm.symm
  have sameValues : options.map (·.value) = (listedLiterals metadata).map (·.value) :=
    List.append_inj_left (numberedSplit.symm.trans split) (by simp [samePerm.length_eq])
  have same : options = listedLiterals metadata := by
    refine List.ext_getElem samePerm.length_eq fun n before behind => ?_
    have sameValue := List.getElem_of_eq sameValues (by simpa using before)
    rw [List.getElem_map, List.getElem_map] at sameValue
    exact List.inj_on_of_nodup_map differentValues (perm.mem_iff.mp (List.getElem_mem before))
      (listedLiterals_perm.mem_iff.mp (List.getElem_mem behind)) sameValue
  rw [same] at ascending
  exact (pairwise_number_iff distinct).mp ascending

/-- If no two of the names denote one number, the contributors start with the values of the literal
options in the order of the names as texts. That is the order of the numbers if the two orders agree
on the names, as they do on names of one length, and only then if no two options have one value.
-/
theorem exists_ascending_of_read (distinct : HaveDistinctNumbers (literalItems metadata))
    (done : read tree metadata = .ok (contributors, warnings))
    : (∃ (options : List MetadataItem) (rest : List String),
        options.Perm (literalItems metadata)
        ∧ (options.Pairwise fun a b => a.key < b.key)
        ∧ contributors = options.map (·.value) ++ rest)
      ∧ (HaveNumericNames (literalItems metadata) → StartsNumbered metadata contributors)
      ∧ (((literalItems metadata).map (·.value)).Nodup →
          StartsNumbered metadata contributors → HaveNumericNames (literalItems metadata))
      ∧ ((∀ a ∈ literalItems metadata, ∀ b ∈ literalItems metadata,
            a.key.length = b.key.length) →
          StartsNumbered metadata contributors) := by
  have numbered := startsNumbered_of_haveNumericNames distinct done
  refine ⟨?_, numbered, fun differentValues => ?_, fun sameLength => ?_⟩
  · obtain ⟨rest, split⟩ := exists_append_of_read done
    exact ⟨listedLiterals metadata, rest, listedLiterals_perm,
      (pairwise_listedLiterals distinct).imp And.left, split⟩
  · exact haveNumericNames_of_startsNumbered distinct differentValues done
  · exact numbered (haveNumericNames_of_length sameLength)

/-- Metadata with options of the section only, all defined in one file. -/
def metadataOf (options : List (String × String)) : Metadata :=
  ⟨[(sectionName, options.map fun (name, value) => (name, ⟨value, ⟨"m"⟩⟩))]⟩

/-- Three options with numbers as names, one of them behind a zero, and one that is no name. -/
def numberedMetadata : Metadata :=
  metadataOf [("01", "First"), ("2", "Second"), ("30", "Third"), ("x", "nobody")]

theorem exists_ascending_of_read_numbered
    : HaveDistinctNumbers (literalItems numberedMetadata)
      ∧ read FileTree.empty numberedMetadata
        = .ok (["First", "Second", "Third"], [.unrecognizedContributor "x" "nobody"])
      ∧ StartsNumbered numberedMetadata ["First", "Second", "Third"] := by
  have distinct : HaveDistinctNumbers (literalItems numberedMetadata) := by
    decide +kernel
  have done : read FileTree.empty numberedMetadata
      = .ok (["First", "Second", "Third"], [.unrecognizedContributor "x" "nobody"]) :=
    read_of_pairwise (by decide) (by decide +kernel)
  obtain ⟨-, numbered, -, -⟩ := exists_ascending_of_read distinct done
  exact ⟨distinct, done, numbered (by decide +kernel)⟩

/-- Metadata with options for two and for ten. -/
def unpaddedMetadata : Metadata :=
  metadataOf [("10", "Tenth"), ("2", "Second")]

/-- As texts ten stands before two. -/
theorem not_startsNumbered_of_read
    : HaveDistinctNumbers (literalItems unpaddedMetadata)
      ∧ (∀ item ∈ literalItems unpaddedMetadata, item.key ≠ "")
      ∧ read FileTree.empty unpaddedMetadata = .ok (["Tenth", "Second"], [])
      ∧ ¬ StartsNumbered unpaddedMetadata ["Tenth", "Second"] := by
  have distinct : HaveDistinctNumbers (literalItems unpaddedMetadata) := by
    decide +kernel
  have done : read FileTree.empty unpaddedMetadata = .ok (["Tenth", "Second"], []) :=
    read_of_pairwise (by decide) (by decide +kernel)
  refine ⟨distinct, by decide +kernel, done, fun numbered => ?_⟩
  have agrees := haveNumericNames_of_startsNumbered distinct (by decide +kernel) done numbered
  revert agrees
  decide +kernel

end AddonPackager.Contributor
