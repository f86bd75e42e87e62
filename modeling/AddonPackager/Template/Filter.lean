import AddonPackager.Template.Operation
import AddonPackager.Text.Trim
import AddonPackager.Unicode.Case

/-! The filters of templates. The language has more of them; any filter that is not in the table here
counts as unknown.
-/

namespace AddonPackager.Template

/-- A function on a value with further arguments. -/
abbrev Filter := Value → List Value → Except Fault Value

namespace Filter

def plain (f : Value → Except Fault Value) : Filter := fun value given =>
  if given.isEmpty then f value else .error .tooManyArguments

/-- A filter on the display of its value. -/
def onText (f : String → String) : Filter :=
  plain fun value => .ok (.ofString (f value.display))

/-- The compact JSON text of a value. -/
def json : Filter :=
  plain fun value => .ok (.ofString value.toJson.compact)

/-- The display of a value as safe text. -/
def safe : Filter :=
  plain fun value => .ok (.text value.display true)

/-- The display of a value, escaped for markup, as safe text. -/
def escape : Filter :=
  plain fun value => .ok (.text value.displayEscaped true)

/-- How many items, entries or characters a value has. -/
def length : Filter := plain fun value =>
  match value with
  | .text s _ => .ok (.integer s.length)
  | .list items => .ok (.integer items.length)
  | .map entries => .ok (.integer entries.length)
  | _ => .error .invalidOperation

/-- The first item, key or character of a value. -/
def first : Filter := plain fun value =>
  match value with
  | .undefined | .none => .error .invalidOperation
  | value => value.elements.map (·.head?.getD .undefined)

/-- The displays of all elements with a separator between them. -/
def join : Filter := fun value given => do
  let separator ← match given with
    | [] => .ok ""
    | [separator] => .ok separator.display
    | _ => .error .tooManyArguments
  return .ofString (Text.join separator ((← value.elements).map Value.display))

/-- Another value in place of an undefined one, and on demand of one that is not true. -/
def default : Filter := fun value given =>
  match given with
  | [] => .ok (if value matches .undefined then .ofString "" else value)
  | [other] => .ok (if value matches .undefined then other else value)
  | [other, lax] =>
      .ok (if value matches .undefined || (lax.isTrue && !value.isTrue) then other else value)
  | _ => .error .tooManyArguments

/-- A text without some characters at either end. -/
def trimmedOf (isTrimmed : Char → Bool) (text : String) : String :=
  String.ofList ((text.toList.dropWhile isTrimmed).reverse.dropWhile isTrimmed).reverse

/-- A text without blanks, or without given characters, at either end. -/
def trim : Filter := fun value given =>
  match given with
  | [] => .ok (.ofString (Text.trimmed value.display))
  | [characters] =>
      .ok (.ofString (trimmedOf (characters.display.toList.contains ·) value.display))
  | _ => .error .tooManyArguments

/-- A text with `new` wherever `old` was; an empty old text is everywhere between characters. -/
def replaced (old new text : List Char) : List Char :=
  if old.isEmpty then new ++ text.flatMap (· :: new) else Text.replaceAll old new text

/-- Replaces every occurrence of one text by another. -/
def replace : Filter := fun value given =>
  match given with
  | [] | [_] => .error .missingArgument
  | [old, new] =>
      .ok (.ofString (String.ofList
        (replaced old.display.toList new.display.toList value.display.toList)))
  | _ => .error .tooManyArguments

def table : List (String × Filter) := [
  ("json", json), ("upper", onText Unicode.upper), ("lower", onText Unicode.lower),
  ("safe", safe), ("escape", escape), ("e", escape), ("join", join), ("length", length),
  ("count", length), ("default", default), ("d", default), ("first", first), ("trim", trim),
  ("replace", replace)]

end Filter

end AddonPackager.Template
