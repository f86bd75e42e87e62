import AddonPackager.Json.Printer
import AddonPackager.Text.Markup

/-! The values templates compute with: their truth, order, equality and display.
-/

namespace AddonPackager.Template

/-- What an entry of a map can be named by. -/
inductive Key where
  | bool (value : Bool)
  | integer (value : Int)
  | text (content : String)
  deriving DecidableEq, Repr

/-- A value of a template. -/
inductive Value where
  /-- What a name without a value stands for. -/
  | undefined
  | none
  | bool (value : Bool)
  | integer (value : Int)
  /-- A text. A safe one is printed as it is where others are escaped. -/
  | text (content : String) (safe : Bool)
  | list (items : List Value)
  /-- A map with its keys in ascending order. -/
  | map (entries : List (Key × Value))
  deriving Inhabited

def boolText (value : Bool) : String :=
  if value then "True" else "False"

/-! Keys -/

namespace Key

/-- The display of a key in a map. -/
def display : Key → String
  | .bool b => boolText b
  | .integer n => toString n
  | .text s => Text.quoted s

def toValue : Key → Value
  | .bool b => .bool b
  | .integer n => .integer n
  | .text s => .text s false

/-- The key as the name of a JSON member. -/
def memberName : Key → String
  | .bool b => if b then "true" else "false"
  | .integer n => toString n
  | .text s => s

end Key

namespace Value

def ofString (content : String) : Value :=
  .text content false

/-- The key that a value stands for; lists, maps and missing values are no keys. -/
def key? : Value → Option Key
  | .bool b => some (.bool b)
  | .integer n => some (.integer n)
  | .text s _ => some (.text s)
  | _ => Option.none

/-- The integer a value stands for; truth counts as one and falsehood as zero. -/
def integer? : Value → Option Int
  | .bool b => some (if b then 1 else 0)
  | .integer n => some n
  | _ => Option.none

def text? : Value → Option String
  | .text s _ => some s
  | _ => Option.none

/-- Whether a condition holds for a value. -/
def isTrue : Value → Bool
  | .undefined => false
  | .none => false
  | .bool b => b
  | .integer n => n != 0
  | .text s _ => s != ""
  | .list items => !items.isEmpty
  | .map entries => !entries.isEmpty

/-! Order and equality -/

/-- The rank of a kind of values among the others. -/
def rank : Value → Nat
  | .undefined => 0
  | .none => 1
  | .bool _ => 2
  | .integer _ => 3
  | .text _ _ => 4
  | .list _ => 5
  | .map _ => 6

/-- Order of values that are neither lists nor maps, and of values of different kinds: texts by
code points, numbers by value, anything else by kind.
-/
def compareScalars (a b : Value) : Ordering :=
  match a.text?, b.text? with
  | some s, some t => Ord.compare s t
  | _, _ =>
      match a.integer?, b.integer? with
      | some m, some n => (Ord.compare m n).then (Ord.compare a.rank b.rank)
      | _, _ => Ord.compare a.rank b.rank

mutual

/-- Order of values; lists compare item by item, maps entry by entry. -/
def compare : Value → Value → Ordering
  | .list a, .list b => compareItems a b
  | .map a, .map b => compareEntries a b
  | a, b => compareScalars a b

def compareItems : List Value → List Value → Ordering
  | [], [] => .eq
  | [], _ :: _ => .lt
  | _ :: _, [] => .gt
  | a :: as, b :: bs => (compare a b).then (compareItems as bs)

def compareEntries : List (Key × Value) → List (Key × Value) → Ordering
  | [], [] => .eq
  | [], _ :: _ => .lt
  | _ :: _, [] => .gt
  | (k, a) :: as, (l, b) :: bs =>
      ((compareScalars k.toValue l.toValue).then (compare a b)).then (compareEntries as bs)

end

mutual

/-- Equality of values; a truth value equals the integer it counts as. -/
def equals : Value → Value → Bool
  | .list a, .list b => equalItems a b
  | .map a, .map b => equalEntries a b
  | a, b =>
      match a.integer?, b.integer? with
      | some m, some n => m == n
      | _, _ => compareScalars a b == .eq

def equalItems : List Value → List Value → Bool
  | [], [] => true
  | a :: as, b :: bs => equals a b && equalItems as bs
  | _, _ => false

def equalEntries : List (Key × Value) → List (Key × Value) → Bool
  | [], [] => true
  | (k, a) :: as, (l, b) :: bs => k == l && equals a b && equalEntries as bs
  | _, _ => false

end

/-! Maps -/

/-- Puts an entry in its place; an old entry of the key is replaced. -/
def placeEntry (key : Key) (value : Value) : List (Key × Value) → List (Key × Value)
  | [] => [(key, value)]
  | (k, old) :: rest =>
      if key = k then (key, value) :: rest
      else if compareScalars key.toValue k.toValue = .lt then (key, value) :: (k, old) :: rest
      else (k, old) :: placeEntry key value rest

/-- The map of a list of entries; of several entries of a key the last one counts. -/
def ofEntries (entries : List (Key × Value)) : Value :=
  .map (entries.foldl (fun placed entry => placeEntry entry.1 entry.2 placed) [])

/-- The map of a list of named values. -/
def ofNamed (members : List (String × Value)) : Value :=
  ofEntries (members.map fun (name, value) => (.text name, value))

/-- The list of a list of texts. -/
def ofTexts (texts : List String) : Value :=
  .list (texts.map ofString)

/-! Display -/

def enclosed (opening closing : Char) (texts : List String) : String :=
  String.singleton opening ++ Text.join ", " texts ++ String.singleton closing

mutual

/-- The display of a value inside a list or map, where texts are quoted. -/
def inner : Value → String
  | .undefined => "undefined"
  | .none => "None"
  | .bool b => boolText b
  | .integer n => toString n
  | .text s _ => Text.quoted s
  | .list items => enclosed '[' ']' (innerItems items)
  | .map entries => enclosed '{' '}' (innerEntries entries)

/-- The displays of the items of a list. -/
def innerItems : List Value → List String
  | [] => []
  | item :: rest => inner item :: innerItems rest

/-- The displays of the entries of a map. -/
def innerEntries : List (Key × Value) → List String
  | [] => []
  | (key, value) :: rest => (key.display ++ ": " ++ inner value) :: innerEntries rest

end

/-- The display of a value: a text is its content, and an undefined value shows nothing. -/
def display : Value → String
  | .undefined => ""
  | .text s _ => s
  | value => inner value

/-- The display of a value inside markup: escaped unless it is a safe text. -/
def displayEscaped : Value → String
  | .text s true => s
  | value => Text.markup value.display

/-! JSON -/

mutual

/-- The value as JSON; what is undefined becomes null. -/
def toJson : Value → Json
  | .undefined => .null
  | .none => .null
  | .bool b => .bool b
  | .integer n => .number (toString n)
  | .text s _ => .string s
  | .list items => .array (toJsonItems items)
  | .map entries => .object (toJsonMembers entries)

/-- The items of a list as JSON. -/
def toJsonItems : List Value → List Json
  | [] => []
  | item :: rest => toJson item :: toJsonItems rest

/-- The entries of a map as JSON members. -/
def toJsonMembers : List (Key × Value) → List (String × Json)
  | [] => []
  | (key, value) :: rest => (key.memberName, toJson value) :: toJsonMembers rest

end

end Value

end AddonPackager.Template
