/-! The cyclic redundancy check of 32 bits that archives carry for each member.
-/

namespace AddonPackager.Archive

/-- The polynomial, lowest power first. -/
def polynomial : UInt32 := 0xEDB88320

/-- Takes one bit out of the remainder. -/
def reduceBit (remainder : UInt32) : UInt32 :=
  if remainder &&& 1 = 1 then (remainder >>> 1) ^^^ polynomial else remainder >>> 1

def reduceByte (remainder : UInt32) (byte : UInt8) : UInt32 :=
  Nat.repeat reduceBit 8 (remainder ^^^ byte.toUInt32)

def checksum (bytes : List UInt8) : UInt32 :=
  ~~~(bytes.foldl reduceByte 0xFFFFFFFF)

end AddonPackager.Archive
