import AddonPackager.Digest.Block

/-! The message digest SHA-1.
-/

namespace AddonPackager.Digest.Sha1

open Bytes

/-- The five words that blocks are mixed into. -/
structure State where
  a : UInt32
  b : UInt32
  c : UInt32
  d : UInt32
  e : UInt32
  deriving DecidableEq, Repr

def initial : State :=
  ⟨0x67452301, 0xEFCDAB89, 0x98BADCFE, 0x10325476, 0xC3D2E1F0⟩

/-- The next word of a schedule whose last sixteen words are given, oldest first. -/
def nextWord (window : List UInt32) : UInt32 :=
  let word := fun i => window.getD i 0
  rotateLeft (word 13 ^^^ word 8 ^^^ word 2 ^^^ word 0) 1

/-- A number of words of the schedule that goes on from sixteen words. -/
def schedule : Nat → List UInt32 → List UInt32
  | 0, _ => []
  | count + 1, window => window.headD 0 :: schedule count (window.drop 1 ++ [nextWord window])

/-- The function of a step and its addend. -/
def mixed (i : Nat) (s : State) : UInt32 × UInt32 :=
  if i < 20 then ((s.b &&& s.c) ||| (~~~s.b &&& s.d), 0x5A827999)
  else if i < 40 then (s.b ^^^ s.c ^^^ s.d, 0x6ED9EBA1)
  else if i < 60 then ((s.b &&& s.c) ||| (s.b &&& s.d) ||| (s.c &&& s.d), 0x8F1BBCDC)
  else (s.b ^^^ s.c ^^^ s.d, 0xCA62C1D6)

def step (s : State) (word : UInt32 × Nat) : State :=
  let (f, addend) := mixed word.2 s
  ⟨rotateLeft s.a 5 + f + s.e + addend + word.1, s.a, rotateLeft s.b 30, s.c, s.d⟩

def absorb (s : State) (block : List UInt8) : State :=
  let t := (schedule 80 (words ofBigEndian block)).zipIdx.foldl step s
  ⟨s.a + t.a, s.b + t.b, s.c + t.c, s.d + t.d, s.e + t.e⟩

def State.bytes (s : State) : List UInt8 :=
  [s.a, s.b, s.c, s.d, s.e].flatMap fun word => bigEndian 4 word.toNat

/-- The digest of a message, twenty bytes. -/
def digest (message : List UInt8) : List UInt8 :=
  ((blocks (padded (bigEndian 8) message)).foldl absorb initial).bytes

end AddonPackager.Digest.Sha1
