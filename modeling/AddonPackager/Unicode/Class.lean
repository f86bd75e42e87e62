import AddonPackager.Unicode.Letter
import AddonPackager.Unicode.Mark
import AddonPackager.Unicode.Number
import AddonPackager.Unicode.Unprintable

/-! Character classes. ASCII is decided by rule, everything beyond it by the tables of the
general categories.
-/

namespace AddonPackager.Unicode

/-- The property White_Space. -/
def isBlank (c : Char) : Bool :=
  let code := c.toNat
  (9 ≤ code && code ≤ 13) || code == 0x20 || code == 0x85 || code == 0xA0 || code == 0x1680
    || (0x2000 ≤ code && code ≤ 0x200A) || code == 0x2028 || code == 0x2029 || code == 0x202F
    || code == 0x205F || code == 0x3000

/-- Letters and letter numbers. -/
def isLetter (c : Char) : Bool :=
  if c.toNat < 0x80 then c.isAlpha else inRanges letters c.toNat

/-- Decimal digits of any script. -/
def isDecimal (c : Char) : Bool :=
  if c.toNat < 0x80 then c.isDigit else inRanges decimalDigits c.toNat

/-- The underscore and the other connecting punctuation. -/
def isConnector (c : Char) : Bool :=
  if c.toNat < 0x80 then c == '_' else inRanges connectors c.toNat

/-- The two characters that control joining. -/
def isJoinControl (c : Char) : Bool :=
  c.toNat == 0x200C || c.toNat == 0x200D

/-- Combining marks; ASCII has none. -/
def isMark (c : Char) : Bool :=
  0x80 ≤ c.toNat && (inRanges nonspacingMarks c.toNat || inRanges spacingMarks c.toNat
    || inRanges enclosingMarks c.toNat)

/-- Word characters: what is alphabetic, marks, digits, connectors and join controls. -/
def isWord (c : Char) : Bool :=
  if c.toNat < 0x80 then
    c.isAlphanum || c == '_'
  else
    isLetter c || isMark c || isDecimal c || isConnector c || isJoinControl c
      || inRanges enclosedLetters c.toNat

/-- Characters that extend the grapheme before them; ASCII has none. -/
def isExtender (c : Char) : Bool :=
  0x80 ≤ c.toNat && (inRanges nonspacingMarks c.toNat || inRanges enclosingMarks c.toNat
    || inRanges otherExtenders c.toNat)

/-- Characters with a visible form, and the space. -/
def isPrintable (c : Char) : Bool :=
  if c.toNat < 0x80 then 0x20 ≤ c.toNat && c.toNat < 0x7F else !inRanges unprintables c.toNat

end AddonPackager.Unicode
