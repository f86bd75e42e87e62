/-! Finding and replacing texts inside texts.
-/

namespace AddonPackager.Text

/-- What follows `start` in a text that begins with it. -/
def stripPrefix? : List Char → List Char → Option (List Char)
  | [], text => some text
  | _ :: _, [] => none
  | p :: start, c :: text => if p = c then stripPrefix? start text else none

/-- A text begins with `start` exactly if it is `start` and a rest, by induction on `start`. -/
theorem stripPrefix?_eq_some_iff {start text rest : List Char}
    : stripPrefix? start text = some rest ↔ text = start ++ rest := by
  induction start generalizing text with
  | nil => simp [stripPrefix?]
  | cons p start ih =>
      cases text with
      | nil => simp [stripPrefix?]
      | cons c text =>
          by_cases h : p = c
          · simp [stripPrefix?, h, ih]
          · simp [stripPrefix?, h, Ne.symm h]

/-- Whether `pattern` stands somewhere in a text. -/
def occursIn (pattern : List Char) : List Char → Bool
  | [] => pattern.isEmpty
  | c :: rest => pattern.isPrefixOf (c :: rest) || occursIn pattern rest

/-- What stands before and after the first occurrence of a pattern. -/
def cut (pattern : List Char) : List Char → Option (List Char × List Char)
  | [] => if pattern.isEmpty then some ([], []) else none
  | c :: rest =>
      match stripPrefix? pattern (c :: rest) with
      | some after => some ([], after)
      | none => (cut pattern rest).map fun (before, after) => (c :: before, after)

/-- Cutting takes the pattern out of the text and nothing else, by induction on the text. -/
theorem eq_of_cut {pattern text before after : List Char}
    (found : cut pattern text = some (before, after))
    : text = before ++ pattern ++ after := by
  induction text generalizing before with
  | nil =>
      simp only [cut] at found
      split at found
      · rename_i empty
        simp_all
      · simp at found
  | cons c rest ih =>
      simp only [cut] at found
      split at found
      · rename_i after' stripped
        simp only [Option.some.injEq, Prod.mk.injEq] at found
        obtain ⟨rfl, rfl⟩ := found
        simpa using stripPrefix?_eq_some_iff.mp stripped
      · obtain ⟨⟨before', after'⟩, inner, same⟩ := Option.map_eq_some_iff.mp found
        simp only [Prod.mk.injEq] at same
        obtain ⟨rfl, rfl⟩ := same
        simp [ih inner]

/-- Every occurrence of `first :: others`, found from left to right, becomes `new`. -/
def replaceFrom (first : Char) (others new : List Char) : List Char → List Char
  | [] => []
  | c :: rest =>
      if c = first then
        match found : stripPrefix? others rest with
        | some after =>
            have : after.length ≤ rest.length := by
              simp [stripPrefix?_eq_some_iff.mp found]
            new ++ replaceFrom first others new after
        | none => c :: replaceFrom first others new rest
      else
        c :: replaceFrom first others new rest
termination_by text => text.length

/-- Every occurrence of `pattern`, found from left to right, becomes `new`; the empty pattern
occurs nowhere.
-/
def replaceAll (pattern new text : List Char) : List Char :=
  match pattern with
  | [] => text
  | first :: others => replaceFrom first others new text

/-- Whether a string ends with another one. -/
def endsWith (text ending : String) : Bool :=
  ending.toList.isSuffixOf text.toList

/-- Whether a string starts with another one. -/
def startsWith (text start : String) : Bool :=
  start.toList.isPrefixOf text.toList

end AddonPackager.Text
