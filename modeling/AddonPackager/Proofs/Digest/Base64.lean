import AddonPackager.Digest.Base64
import Mathlib.Data.List.Basic

/-! Text in base 64 stands on one line, and the bytes can be read back from it.
-/

namespace AddonPackager.Digest.Base64

-----------------------------------------------------------------------------------------
-- Digits
-----------------------------------------------------------------------------------------

/-- The six bits that a digit stands for. -/
def bitsOf (digit : Char) : Nat :=
  alphabet.idxOf digit

theorem bitsOf_digit {bits : Nat} (small : bits < 64) : bitsOf (digit bits) = bits := by
  revert bits
  decide +kernel

theorem digit_ne_filler {bits : Nat} (small : bits < 64) : digit bits ≠ '=' := by
  revert bits
  decide +kernel

theorem newline_ne_digit (bits : Nat) : '\n' ≠ digit bits := by
  have others : '\n' ∉ '=' :: alphabet := by
    decide +kernel
  have listed : digit bits ∈ '=' :: alphabet := by
    rw [digit, List.getD_eq_getElem?_getD]
    cases found : alphabet[bits]? with
    | none => exact List.mem_cons_self
    | some c => exact List.mem_cons_of_mem _ (List.mem_of_getElem? found)
  exact fun same => others (same ▸ listed)

/-- The text of some bytes is one line, by induction on groups of three bytes. -/
theorem newline_not_mem_encode {bytes : List UInt8} : '\n' ∉ encode bytes := by
  fun_induction encode bytes with
  | case1 => simp
  | case2 => simp [newline_ne_digit]
  | case3 => simp [newline_ne_digit]
  | case4 _ _ _ _ ih => simp [newline_ne_digit, ih]

-----------------------------------------------------------------------------------------
-- Reading back
-----------------------------------------------------------------------------------------

/-- The bytes of a text. -/
def decode : List Char → List UInt8
  | w :: x :: y :: z :: rest =>
      let first := UInt8.ofNat (bitsOf w * 4 + bitsOf x / 16)
      let second := UInt8.ofNat (bitsOf x % 16 * 16 + bitsOf y / 4)
      let third := UInt8.ofNat (bitsOf y % 4 * 64 + bitsOf z)
      if y = '=' then [first]
      else if z = '=' then [first, second]
      else first :: second :: third :: decode rest
  | _ => []

theorem ofNat_eq (byte : UInt8) {n : Nat} (same : n = byte.toNat) : UInt8.ofNat n = byte := by
  rw [same, UInt8.ofNat_toNat]

/-- Bytes are read back from their text, by induction on groups of three bytes. -/
theorem decode_encode (bytes : List UInt8) : decode (encode bytes) = bytes := by
  fun_induction encode bytes with
  | case1 => rfl
  | case2 a =>
      have := a.toNat_lt
      rw [decode, if_pos rfl, bitsOf_digit (by omega), bitsOf_digit (by omega)]
      rw [ofNat_eq a (by omega)]
  | case3 a b =>
      have := a.toNat_lt
      have := b.toNat_lt
      rw [decode, if_neg (digit_ne_filler (by omega)), if_pos rfl, bitsOf_digit (by omega),
        bitsOf_digit (by omega), bitsOf_digit (by omega), ofNat_eq a (by omega),
        ofNat_eq b (by omega)]
  | case4 a b c rest ih =>
      have := a.toNat_lt
      have := b.toNat_lt
      have := c.toNat_lt
      rw [decode, if_neg (digit_ne_filler (by omega)), if_neg (digit_ne_filler (by omega)), ih,
        bitsOf_digit (by omega), bitsOf_digit (by omega), bitsOf_digit (by omega),
        bitsOf_digit (by omega), ofNat_eq a (by omega),
        ofNat_eq b (by omega), ofNat_eq c (by omega)]

/-- Different bytes have different texts. -/
theorem encode_injective : Function.Injective encode :=
  Function.LeftInverse.injective decode_encode

end AddonPackager.Digest.Base64
