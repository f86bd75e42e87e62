import AddonPackager.Unicode.CaseTable

/-! Full case conversion of texts. One character may become several, and a capital sigma at
the end of a word becomes a final sigma.
-/

namespace AddonPackager.Unicode

/-- The image of a code point under a table of runs and a table of expansions. -/
def caseImage (runs : List CaseRun) (expansions : List (Nat × List Nat)) (c : Char) : List Char :=
  match expansions.lookup c.toNat with
  | some codes => codes.map Char.ofNat
  | none =>
      match runs.findSome? (·.image? c.toNat) with
      | some code => [Char.ofNat code]
      | none => [c]

/-- The lowercase form of a character outside any context. -/
def lowerChar (c : Char) : List Char :=
  if c.toNat < 0x80 then [c.toLower] else caseImage lowerRuns lowerExpansions c

/-- The uppercase form of a character. -/
def upperChar (c : Char) : List Char :=
  if c.toNat < 0x80 then [c.toUpper] else caseImage upperRuns upperExpansions c

/-- Characters that have case. -/
def isCased (c : Char) : Bool :=
  if c.toNat < 0x80 then c.isAlpha else inRanges casedRanges c.toNat

/-- Whether the first character that casing context does not look through has case. -/
def seesCased (context : List Char) : Bool :=
  match context.dropWhile fun c => inRanges caseIgnorable c.toNat with
  | c :: _ => isCased c
  | [] => false

/-- Lowercase of `text`, where `before` is what precedes it, nearest character first. -/
def lowerFrom (before : List Char) : List Char → List Char
  | [] => []
  | c :: rest =>
      let image :=
        if c.toNat == 0x3A3 then
          if seesCased before && !seesCased rest then [Char.ofNat 0x3C2] else [Char.ofNat 0x3C3]
        else
          lowerChar c
      image ++ lowerFrom (c :: before) rest

/-- The lowercase form of a text. -/
def lower (text : String) : String :=
  String.ofList (lowerFrom [] text.toList)

/-- The uppercase form of a text. -/
def upper (text : String) : String :=
  String.ofList (text.toList.flatMap upperChar)

end AddonPackager.Unicode
