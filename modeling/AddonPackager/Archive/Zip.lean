import AddonPackager.Archive.Checksum
import AddonPackager.Bytes

/-! Archives in the ZIP format, with members stored as they are. A member stands in the archive
behind a record with its name and size; a directory of all members and an end record follow.
Compression is left out, and so are the larger fields for members that the usual ones are too small
for.
-/

namespace AddonPackager.Archive

open Bytes

abbrev Member := String × ByteArray

/-! Writing -/

/-- The first bytes of the record before a member. -/
def memberMark : List UInt8 := [0x50, 0x4B, 3, 4]

/-- The first bytes of a record in the directory. -/
def directoryMark : List UInt8 := [0x50, 0x4B, 1, 2]

/-- The first bytes of the end record. -/
def endMark : List UInt8 := [0x50, 0x4B, 5, 6]

/-- The bytes of the name of a member. -/
def nameBytes (member : Member) : List UInt8 :=
  member.1.toUTF8.toList

/-- The fields that the record of a member and its record in the directory share: version, names
in UTF-8, no compression, a fixed time and day, check number, sizes and length of the name.
-/
def commonFields (member : Member) : List UInt8 :=
  let data := member.2.toList
  littleEndian 2 20 ++ littleEndian 2 0x800 ++ littleEndian 2 0 ++ littleEndian 2 0
    ++ littleEndian 2 0x21 ++ littleEndian 4 (checksum data).toNat ++ littleEndian 4 data.length
    ++ littleEndian 4 data.length ++ littleEndian 2 (nameBytes member).length

/-- A member with the record before it. -/
def memberRecord (member : Member) : List UInt8 :=
  memberMark ++ commonFields member ++ littleEndian 2 0 ++ nameBytes member ++ member.2.toList

/-- The record in the directory of a member at an offset. -/
def directoryRecord (member : Member) (offset : Nat) : List UInt8 :=
  directoryMark ++ littleEndian 2 0x314 ++ commonFields member ++ littleEndian 2 0
    ++ littleEndian 2 0 ++ littleEndian 2 0 ++ littleEndian 2 0
    ++ littleEndian 4 (0o100644 * 0x10000) ++ littleEndian 4 offset ++ nameBytes member

/-- The directory of members, the first of which is at an offset. -/
def directory : Nat → List Member → List UInt8
  | _, [] => []
  | offset, member :: rest =>
      directoryRecord member offset ++ directory (offset + (memberRecord member).length) rest

def endRecord (count size offset : Nat) : List UInt8 :=
  endMark ++ littleEndian 2 0 ++ littleEndian 2 0 ++ littleEndian 2 count ++ littleEndian 2 count
    ++ littleEndian 4 size ++ littleEndian 4 offset ++ littleEndian 2 0

def encode (members : List Member) : ByteArray :=
  let records := members.flatMap memberRecord
  let listed := directory 0 members
  ⟨(records ++ listed ++ endRecord members.length listed.length records.length).toArray⟩

/-! Reading -/

def stripMark? : List UInt8 → List UInt8 → Option (List UInt8)
  | [], bytes => some bytes
  | _ :: _, [] => none
  | m :: mark, b :: bytes => if m = b then stripMark? mark bytes else none

/-- The number in a field that starts at a place. -/
def fieldAt (bytes : List UInt8) (start width : Nat) : Nat :=
  ofLittleEndian ((bytes.drop start).take width)

/-- The member that bytes behind a mark start with, and what follows it. Only stored members are
read.
-/
def readMember? (bytes : List UInt8) : Option (Member × List UInt8) := do
  guard (26 ≤ bytes.length && fieldAt bytes 4 2 = 0)
  let size := fieldAt bytes 14 4
  let nameLength := fieldAt bytes 22 2
  let rest := bytes.drop 26
  let name ← String.fromUTF8? ⟨(rest.take nameLength).toArray⟩
  let content := rest.drop (nameLength + fieldAt bytes 24 2)
  guard (size ≤ content.length)
  some ((name, ⟨(content.take size).toArray⟩), content.drop size)

/-- The members before the directory. Every member takes bytes, so their number bounds the
steps.
-/
def readMembers? : Nat → List UInt8 → Option (List Member)
  | 0, _ => none
  | steps + 1, bytes =>
      match stripMark? memberMark bytes with
      | some rest => do
          let (member, rest) ← readMember? rest
          (readMembers? steps rest).map (member :: ·)
      | none =>
          if (stripMark? directoryMark bytes).isSome || (stripMark? endMark bytes).isSome then
            some []
          else
            none

/-- The members of an archive in order. -/
def decode? (archive : ByteArray) : Option (List Member) :=
  readMembers? (archive.size + 1) archive.toList

end AddonPackager.Archive
