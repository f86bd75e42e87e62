/-! Numbers by their text: which of them a double can hold.
-/

namespace AddonPackager.Json

def ofDigits (digits : List Char) : Nat :=
  digits.foldl (fun n c => n * 10 + (c.toNat - '0'.toNat)) 0

def ofHexDigits (digits : List Char) : Nat :=
  digits.foldl (fun n c =>
    let digit :=
      if c.isDigit then c.toNat - '0'.toNat
      else if 'a' ≤ c then c.toNat - 'a'.toNat + 10
      else c.toNat - 'A'.toNat + 10
    n * 16 + digit) 0

/-- ASCII hexadecimal digits. -/
def isHexDigit (c : Char) : Bool :=
  c.isDigit || ('a' ≤ c && c ≤ 'f') || ('A' ≤ c && c ≤ 'F')

/-- A decimal number without its sign: `mantissa` times ten to the `exponent`. -/
structure Decimal where
  mantissa : Nat
  exponent : Int
  deriving DecidableEq, Repr

/-- A number without sign as an integer part, fraction digits and an exponent. -/
def Decimal.ofParts (whole fraction : List Char) (exponent : Int) : Decimal :=
  ⟨ofDigits (whole ++ fraction), exponent - fraction.length⟩

/-- The least number that rounds beyond the greatest double. -/
def doubleBound : Nat :=
  Nat.pow 2 1024 - Nat.pow 2 970

/-- Whether a number rounds to a finite double. Numbers far from the bound are decided by their
digit count.
-/
def Decimal.fitsDouble (number : Decimal) : Bool :=
  let digits : Int := (Nat.toDigits 10 number.mantissa).length + number.exponent
  if number.mantissa = 0 || digits < 300 then true
  else if digits > 320 then false
  else if 0 ≤ number.exponent then number.mantissa * Nat.pow 10 number.exponent.toNat < doubleBound
  else number.mantissa < doubleBound * Nat.pow 10 (-number.exponent).toNat

/-- Splits the exponent part off the text of a number. -/
def splitExponent (text : List Char) : List Char × Int :=
  let isMark := fun c : Char => c == 'e' || c == 'E'
  let exponent :=
    match text.dropWhile (!isMark ·) with
    | _ :: '-' :: digits => -(ofDigits digits : Int)
    | _ :: '+' :: digits => (ofDigits digits : Int)
    | _ :: digits => (ofDigits digits : Int)
    | [] => 0
  (text.takeWhile (!isMark ·), exponent)

/-- The value of a decimal number without sign. -/
def Decimal.ofText (text : List Char) : Decimal :=
  let (digits, exponent) := splitExponent text
  .ofParts (digits.takeWhile (· != '.')) ((digits.dropWhile (· != '.')).drop 1) exponent

end AddonPackager.Json
