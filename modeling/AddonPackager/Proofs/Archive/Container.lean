import AddonPackager.Archive.Zip
import AddonPackager.Proofs.Package.Contents
import Mathlib.Algebra.Group.Nat.Defs
import Mathlib.Data.Option.Basic

/-! Archives read back. What is written into an archive is found in it again, in the same order, as
long as names and contents fit into the fields for their lengths.
-/

namespace AddonPackager

-----------------------------------------------------------------------------------------
-- Bytes
-----------------------------------------------------------------------------------------

namespace Bytes

variable {width n : Nat} {data : ByteArray}

@[simp] theorem length_littleEndian : (littleEndian width n).length = width := by
  induction width generalizing n with
  | zero => rfl
  | succ width ih => simp [littleEndian, ih]

/-- A field reads back as what was written, up to what fits into it, by induction on its width. -/
theorem ofLittleEndian_littleEndian : ofLittleEndian (littleEndian width n) = n % 256 ^ width := by
  induction width generalizing n with
  | zero => simp [littleEndian, ofLittleEndian, Nat.mod_one]
  | succ width ih =>
      have byte : (UInt8.ofNat (n % 256)).toNat = n % 256 := by
        simp
      rw [littleEndian, ofLittleEndian, ih, byte, Nat.pow_succ', Nat.mod_mul]

/-- The bytes of an array from an index on come out in order, by induction on their number. -/
theorem toList_loop {index : Nat} {before : List UInt8}
    : ByteArray.toList.loop data index before = before.reverse ++ data.data.toList.drop index := by
  induction index, before using ByteArray.toList.loop.induct data with
  | case1 index before inside ih =>
      have bound : index < data.data.toList.length := by simpa using inside
      have byte : data.get! index = data.data.toList[index] := by
        simp [ByteArray.get!, getElem!_pos, inside]
      rw [ByteArray.toList.loop, if_pos inside, ih, byte, List.reverse_cons, List.append_assoc,
        List.singleton_append, ← List.drop_eq_getElem_cons]
  | case2 index before outside =>
      have nothing : data.data.toList.drop index = [] :=
        List.drop_of_length_le (by simpa using outside)
      rw [ByteArray.toList.loop, if_neg outside, nothing, List.append_nil]

theorem toList_eq : data.toList = data.data.toList := by
  rw [ByteArray.toList, toList_loop]
  rfl

theorem mk_toArray_toList : ByteArray.mk data.toList.toArray = data := by
  rw [toList_eq]

theorem length_toList : data.toList.length = data.size := by
  rw [toList_eq]
  rfl

end Bytes

-----------------------------------------------------------------------------------------
-- Members
-----------------------------------------------------------------------------------------

namespace Archive

open Bytes

variable {member : Member} {members : List Member} {front back bytes rest : List UInt8}
  {start width n : Nat}

/-- Lengths that fit into the fields for them. -/
def Fits (member : Member) : Prop :=
  (nameBytes member).length < 256 ^ 2 ∧ member.2.size < 256 ^ 4

theorem fieldAt_of_split (split : bytes = front ++ (littleEndian width n ++ back))
    (place : front.length = start) (fits : n < 256 ^ width)
    : fieldAt bytes start width = n := by
  rw [split, fieldAt, ← place, List.drop_left, List.take_left' length_littleEndian,
    ofLittleEndian_littleEndian, Nat.mod_eq_of_lt fits]

theorem length_commonFields : (commonFields member).length = 24 := by
  simp [commonFields]

/-- The fields that reading a member looks at, with lengths that tell where they are. -/
theorem exists_commonFields_eq (member : Member)
    : ∃ opening middle,
        opening.length = 4
        ∧ middle.length = 8
        ∧ commonFields member
          = opening ++ (littleEndian 2 0 ++ (middle ++ (littleEndian 4 member.2.toList.length
            ++ (littleEndian 4 member.2.toList.length
            ++ littleEndian 2 (nameBytes member).length)))) := by
  refine ⟨littleEndian 2 20 ++ littleEndian 2 0x800,
    littleEndian 2 0 ++ littleEndian 2 0x21
      ++ littleEndian 4 (checksum member.2.toList).toNat, by simp, by simp, ?_⟩
  simp only [commonFields, List.append_assoc]

/-- A member is read back from its record. -/
theorem readMember?_record (fits : Fits member)
    : readMember? (commonFields member ++ littleEndian 2 0 ++ nameBytes member
        ++ member.2.toList ++ rest)
      = some (member, rest) := by
  obtain ⟨opening, middle, openingLength, middleLength, fields⟩ := exists_commonFields_eq member
  generalize whole : commonFields member ++ littleEndian 2 0 ++ nameBytes member
    ++ member.2.toList ++ rest = bytes
  have fitsSize : member.2.toList.length < 256 ^ 4 := by
    rw [length_toList]
    exact fits.2
  have method : fieldAt bytes 4 2 = 0 := by
    rw [← whole, fields]
    simp only [List.append_assoc]
    exact fieldAt_of_split rfl openingLength (by decide)
  have size : fieldAt bytes 14 4 = member.2.toList.length := by
    have split : bytes = (opening ++ littleEndian 2 0 ++ middle)
        ++ (littleEndian 4 member.2.toList.length
          ++ (littleEndian 4 member.2.toList.length ++ littleEndian 2 (nameBytes member).length
          ++ littleEndian 2 0 ++ nameBytes member ++ member.2.toList ++ rest)) := by
      rw [← whole, fields]
      simp only [List.append_assoc]
    exact fieldAt_of_split split (by simp [openingLength, middleLength]) fitsSize
  have nameLength : fieldAt bytes 22 2 = (nameBytes member).length := by
    have split : bytes = (opening ++ littleEndian 2 0 ++ middle
          ++ littleEndian 4 member.2.toList.length ++ littleEndian 4 member.2.toList.length)
        ++ (littleEndian 2 (nameBytes member).length
          ++ (littleEndian 2 0 ++ nameBytes member ++ member.2.toList ++ rest)) := by
      rw [← whole, fields]
      simp only [List.append_assoc]
    exact fieldAt_of_split split (by simp [openingLength, middleLength]) fits.1
  have extra : fieldAt bytes 24 2 = 0 := by
    rw [← whole]
    simp only [List.append_assoc]
    exact fieldAt_of_split rfl length_commonFields (by decide)
  have dropped : bytes.drop 26 = nameBytes member ++ (member.2.toList ++ rest) := by
    have split : bytes = (commonFields member ++ littleEndian 2 0)
        ++ (nameBytes member ++ (member.2.toList ++ rest)) := by
      rw [← whole]
      simp only [List.append_assoc]
    rw [split]
    exact List.drop_left' (by simp [length_commonFields])
  have enough : 26 ≤ bytes.length := by
    rw [← whole]
    simp only [List.length_append, length_commonFields, length_littleEndian]
    omega
  have name : String.fromUTF8? ⟨(nameBytes member).toArray⟩ = some member.1 := by
    rw [nameBytes, mk_toArray_toList]
    exact fromUTF8?_eq_some_iff.mpr rfl
  have taken : (bytes.drop 26).take (fieldAt bytes 22 2) = nameBytes member := by
    rw [dropped, nameLength, List.take_left]
  have content : (bytes.drop 26).drop (fieldAt bytes 22 2 + fieldAt bytes 24 2)
      = member.2.toList ++ rest := by
    rw [dropped, nameLength, extra, Nat.add_zero, List.drop_left]
  have isStored : (26 ≤ bytes.length && fieldAt bytes 4 2 = 0) = true := by
    simp [enough, method]
  have isThere : member.2.toList.length ≤ (member.2.toList ++ rest).length := by
    simp
  refine Option.bind_eq_some_iff.mpr ⟨(), (Option.guard_eq_some' ()).mpr isStored, ?_⟩
  dsimp only
  rw [taken, content, size]
  refine Option.bind_eq_some_iff.mpr ⟨_, name, ?_⟩
  refine Option.bind_eq_some_iff.mpr ⟨(), (Option.guard_eq_some' ()).mpr isThere, ?_⟩
  rw [List.take_left, List.drop_left, mk_toArray_toList]

-----------------------------------------------------------------------------------------
-- Archives
-----------------------------------------------------------------------------------------

theorem stripMark?_append {mark : List UInt8} : stripMark? mark (mark ++ bytes) = some bytes := by
  induction mark with
  | nil => rfl
  | cons m mark ih => simp [stripMark?, ih]

/-- Behind the members their directory or the end record follows. -/
theorem stripMark?_tail {offset count size : Nat}
    : stripMark? memberMark (directory offset members ++ endRecord count size n) = none
      ∧ ((stripMark? directoryMark (directory offset members ++ endRecord count size n)).isSome
        || (stripMark? endMark (directory offset members ++ endRecord count size n)).isSome)
        = true := by
  cases members with
  | nil => exact ⟨rfl, rfl⟩
  | cons member rest => exact ⟨rfl, rfl⟩

/-- Members are read back from their records, by induction on them. -/
theorem readMembers?_records {steps : Nat} (fits : ∀ member ∈ members, Fits member)
    (enough : members.length < steps)
    (noMember : stripMark? memberMark rest = none)
    (closed : ((stripMark? directoryMark rest).isSome || (stripMark? endMark rest).isSome) = true)
    : readMembers? steps (members.flatMap memberRecord ++ rest) = some members := by
  induction members generalizing steps with
  | nil =>
      obtain ⟨less, rfl⟩ := Nat.exists_eq_succ_of_ne_zero (Nat.ne_of_gt enough)
      rw [List.flatMap_nil, List.nil_append, readMembers?, noMember]
      exact if_pos closed
  | cons member others ih =>
      obtain ⟨less, rfl⟩ := Nat.exists_eq_succ_of_ne_zero (Nat.ne_zero_of_lt enough)
      have first : readMember? (commonFields member ++ littleEndian 2 0 ++ nameBytes member
            ++ member.2.toList ++ (others.flatMap memberRecord ++ rest))
          = some (member, others.flatMap memberRecord ++ rest) :=
        readMember?_record (fits member List.mem_cons_self)
      have later := ih (fun other listed => fits other (List.mem_cons_of_mem _ listed))
        (Nat.lt_of_succ_lt_succ enough)
      have split : (member :: others).flatMap memberRecord ++ rest
          = memberMark ++ (commonFields member ++ littleEndian 2 0 ++ nameBytes member
            ++ member.2.toList ++ (others.flatMap memberRecord ++ rest)) := by
        simp only [List.flatMap_cons, memberRecord, List.append_assoc]
      rw [split, readMembers?, stripMark?_append]
      simp only [first, later, Option.bind_eq_bind, Option.bind_some, Option.map_some]

theorem length_le_records : members.length ≤ (members.flatMap memberRecord).length := by
  induction members with
  | nil => simp
  | cons member rest ih =>
      have mark : 4 ≤ (memberRecord member).length := by
        simp only [memberRecord, List.length_append]
        have size : memberMark.length = 4 := rfl
        omega
      rw [List.flatMap_cons, List.length_append, List.length_cons]
      omega

/-- An archive holds exactly the members that were written into it. -/
theorem decode?_encode (fits : ∀ member ∈ members, Fits member)
    : decode? (encode members) = some members := by
  rw [decode?, toList_eq, encode]
  simp only [List.append_assoc]
  refine readMembers?_records fits ?_ stripMark?_tail.1 stripMark?_tail.2
  have size : members.length ≤ (members.flatMap memberRecord).length := length_le_records
  simp only [ByteArray.size, List.size_toArray, List.length_append]
  omega

end Archive

end AddonPackager
