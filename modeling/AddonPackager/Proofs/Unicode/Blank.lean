import AddonPackager.Catalog.Format

/-! Blanks are finitely many characters, and none of them is part of a word.
-/

namespace AddonPackager.Unicode

variable {c : Char}

/-- The code points of the blanks. -/
def blankCodes : List Nat :=
  [9, 10, 11, 12, 13, 0x20, 0x85, 0xA0, 0x1680, 0x2000, 0x2001, 0x2002, 0x2003, 0x2004, 0x2005,
    0x2006, 0x2007, 0x2008, 0x2009, 0x200A, 0x2028, 0x2029, 0x202F, 0x205F, 0x3000]

theorem toNat_mem_blankCodes (blank : isBlank c = true) : c.toNat ∈ blankCodes := by
  simp only [isBlank, Bool.or_eq_true, Bool.and_eq_true, decide_eq_true_eq, beq_iff_eq] at blank
  simp only [blankCodes, List.mem_cons, List.not_mem_nil, or_false]
  omega

/-- A class that holds none of the listed blanks holds no blank. -/
theorem isBlank_eq_false_of_class {inside : Char → Bool}
    (checked : ∀ code ∈ blankCodes, inside (Char.ofNat code) = false) (member : inside c = true)
    : isBlank c = false := by
  cases blank : isBlank c with
  | false => rfl
  | true =>
      have outside := checked c.toNat (toNat_mem_blankCodes blank)
      rw [Char.ofNat_toNat, member] at outside
      exact outside

/-- Characters of entity names are no blanks. -/
theorem isBlank_of_isEntityChar (member : CatalogFormat.isEntityChar c = true)
    : isBlank c = false :=
  isBlank_eq_false_of_class (by decide +kernel) member

end AddonPackager.Unicode
