import AddonPackager.Unicode.Class

/-! Quoted display of a text: between double quotes, with escapes for what would not show.
-/

namespace AddonPackager.Text

open Unicode

def hexDigits (n : Nat) : List Char :=
  Nat.toDigits 16 n

/-- The display of one character inside double quotes. -/
def quotedChar (c : Char) : List Char :=
  if c = '\x00' then ['\\', '0']
  else if c = '\t' then ['\\', 't']
  else if c = '\r' then ['\\', 'r']
  else if c = '\n' then ['\\', 'n']
  else if c = '\\' then ['\\', '\\']
  else if c = '"' then ['\\', '"']
  else if isExtender c || !isPrintable c then
    ['\\', 'u', '\x7b'] ++ hexDigits c.toNat ++ ['\x7d']
  else
    [c]

def quoted (text : String) : String :=
  String.ofList ('"' :: text.toList.flatMap quotedChar ++ ['"'])

end AddonPackager.Text
