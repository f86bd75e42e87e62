/-! Reading bytes as text. Strict reading is that of `String.fromUTF8?`; lossy reading never
fails and puts a replacement character for each maximal broken sequence.
-/

namespace AddonPackager.Text

def ofBytes? (bytes : ByteArray) : Option String :=
  String.fromUTF8? bytes

/-- The number of bytes of the sequence that a first byte beyond ASCII announces. -/
def sequenceLength (first : UInt8) : Nat :=
  if 0xC2 ≤ first && first ≤ 0xDF then 2
  else if 0xE0 ≤ first && first ≤ 0xEF then 3
  else if 0xF0 ≤ first && first ≤ 0xF4 then 4
  else 0

def isContinuation (byte : UInt8) : Bool :=
  0x80 ≤ byte && byte ≤ 0xBF

/-- Whether `second` may follow `first`: overlong forms, surrogates and code points beyond the
last plane are cut off here.
-/
def isSecond (first second : UInt8) : Bool :=
  isContinuation second
    && (first != 0xE0 || 0xA0 ≤ second) && (first != 0xED || second ≤ 0x9F)
    && (first != 0xF0 || 0x90 ≤ second) && (first != 0xF4 || second ≤ 0x8F)

/-- The character with the given payload bits, most significant group first. -/
def assemble (lead : Nat) (continuations : List UInt8) : Char :=
  Char.ofNat (continuations.foldl (fun code byte => code * 64 + byte.toNat % 64) lead)

def replacement : Char := Char.ofNat 0xFFFD

def decodeLossy : List UInt8 → List Char
  | [] => []
  | first :: rest =>
      if first < 0x80 then
        Char.ofNat first.toNat :: decodeLossy rest
      else if sequenceLength first = 0 then
        replacement :: decodeLossy rest
      else
        match rest with
        | [] => [replacement]
        | second :: rest₁ =>
            -- A byte that does not fit starts a sequence of its own.
            if !isSecond first second then
              replacement :: decodeLossy (second :: rest₁)
            else if sequenceLength first = 2 then
              assemble (first.toNat % 32) [second] :: decodeLossy rest₁
            else
              match rest₁ with
              | [] => [replacement]
              | third :: rest₂ =>
                  if !isContinuation third then
                    replacement :: decodeLossy (third :: rest₂)
                  else if sequenceLength first = 3 then
                    assemble (first.toNat % 16) [second, third] :: decodeLossy rest₂
                  else
                    match rest₂ with
                    | [] => [replacement]
                    | fourth :: rest₃ =>
                        if !isContinuation fourth then
                          replacement :: decodeLossy (fourth :: rest₃)
                        else
                          assemble (first.toNat % 8) [second, third, fourth] :: decodeLossy rest₃

/-- The characters of a file, read lossily. -/
def lossy (bytes : ByteArray) : List Char :=
  decodeLossy bytes.toList

end AddonPackager.Text
