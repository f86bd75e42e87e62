import AddonPackager.Bytes

/-! What block based digests share: words of 32 bits, padding and blocks of 64 bytes.
-/

namespace AddonPackager.Digest

open Bytes

/-- A word with its bits moved to the left, those that fall out coming back at the right. -/
def rotateLeft (word : UInt32) (bits : UInt32) : UInt32 :=
  (word <<< bits) ||| (word >>> (32 - bits))

/-- A message with a closing bit, zeros up to the place of the length, and its length in bits as
eight bytes in the given order.
-/
def padded (lengthBytes : Nat → List UInt8) (message : List UInt8) : List UInt8 :=
  let zeros := (119 - message.length % 64) % 64
  message ++ 0x80 :: List.replicate zeros 0 ++ lengthBytes (8 * message.length)

def blocks (message : List UInt8) : List (List UInt8) :=
  chunks 64 (message.length / 64) message

def words (ofBytes : List UInt8 → Nat) (block : List UInt8) : List UInt32 :=
  (chunks 4 16 block).map fun bytes => UInt32.ofNat (ofBytes bytes)

end AddonPackager.Digest
