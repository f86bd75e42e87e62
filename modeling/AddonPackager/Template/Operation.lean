import AddonPackager.Template.Fault
import AddonPackager.Template.Syntax
import AddonPackager.Text.Search

/-! What the operators of templates do. Integers stay within 128 bits; sums also join texts and
lists, and products repeat them.
-/

namespace AddonPackager.Template

namespace Value

/-- An integer of at most 128 bits. -/
def ofBounded (n : Int) : Except Fault Value :=
  if -(Int.pow 2 127) ≤ n && n < Int.pow 2 127 then .ok (.integer n) else .error .invalidOperation

def arithmetic (f : Int → Int → Int) (a b : Value) : Except Fault Value :=
  match a.integer?, b.integer? with
  | some m, some n => ofBounded (f m n)
  | _, _ => .error .invalidOperation

/-- The sum of integers; texts and lists are joined. -/
def plus : Value → Value → Except Fault Value
  | .text s _, .text t _ => .ok (ofString (s ++ t))
  | .list a, .list b => .ok (.list (a ++ b))
  | a, b => arithmetic (· + ·) a b

/-- How often something is repeated. -/
def repetitions (n : Value) : Except Fault Nat :=
  match n with
  | .integer (.ofNat n) => .ok n
  | _ => .error .invalidOperation

/-- The product of integers; texts and lists are repeated. -/
def times : Value → Value → Except Fault Value
  | .text s _, n => (repetitions n).map fun n => ofString (String.join (List.replicate n s))
  | n, .text s _ => (repetitions n).map fun n => ofString (String.join (List.replicate n s))
  | .list a, n => (repetitions n).map fun n => .list (List.replicate n a).flatten
  | n, .list a => (repetitions n).map fun n => .list (List.replicate n a).flatten
  | a, b => arithmetic (· * ·) a b

/-- A division of integers; nothing can be divided by zero. -/
def division (f : Int → Int → Int) (a b : Value) : Except Fault Value :=
  if b.integer? = some 0 then .error .invalidOperation else arithmetic f a b

/-- Whether a value is in a container: a text in a text, an item in a list, a key in a map. An
undefined container holds nothing.
-/
def within (value container : Value) : Except Fault Bool :=
  match container with
  | .undefined => .ok false
  | .text s _ => .ok (Text.occursIn value.display.toList s.toList)
  | .list items => .ok (items.any (·.equals value))
  | .map entries => .ok (value.key?.any fun key => entries.any (·.1 == key))
  | _ => .error .invalidOperation

/-- The integer with the opposite sign. -/
def opposite (value : Value) : Except Fault Value :=
  match value with
  | .integer n => ofBounded (-n)
  | _ => .error .invalidOperation

/-- The item of a list at a place; negative places count from the end. -/
def itemAt (items : List Value) (place : Int) : Value :=
  match place with
  | .ofNat n => items[n]?.getD .undefined
  | .negSucc n => items.reverse[n]?.getD .undefined

/-- The characters of a text as values. -/
def characters (text : String) : List Value :=
  text.toList.map fun c => ofString (String.singleton c)

/-- What a value holds at a place. Nothing can be asked of an undefined value; any other value
without such a place holds nothing there.
-/
def item (base place : Value) : Except Fault Value :=
  match base with
  | .undefined => .error .undefinedError
  | .map entries => .ok ((place.key?.bind fun key => entries.lookup key).getD .undefined)
  | .list items => .ok ((place.integer?.map (itemAt items)).getD .undefined)
  | .text s _ => .ok ((place.integer?.map (itemAt (characters s))).getD .undefined)
  | _ => .ok .undefined

/-- The values a loop runs over: items, keys or characters. -/
def elements : Value → Except Fault (List Value)
  | .undefined => .ok []
  | .none => .ok []
  | .list items => .ok items
  | .map entries => .ok (entries.map (·.1.toValue))
  | .text s _ => .ok (characters s)
  | _ => .error .invalidOperation

end Value

/-- The value of an operator that needs both its operands. -/
def BinaryOp.apply (op : BinaryOp) (a b : Value) : Except Fault Value :=
  match op with
  | .either => .ok (if a.isTrue then a else b)
  | .both => .ok (if a.isTrue then b else a)
  | .equal => .ok (.bool (a.equals b))
  | .different => .ok (.bool !a.equals b)
  | .less => .ok (.bool (a.compare b == .lt))
  | .atMost => .ok (.bool (a.compare b != .gt))
  | .greater => .ok (.bool (a.compare b == .gt))
  | .atLeast => .ok (.bool (a.compare b != .lt))
  | .within => (a.within b).map .bool
  | .notWithin => (a.within b).map fun found => .bool !found
  | .plus => a.plus b
  | .minus => Value.arithmetic (· - ·) a b
  | .concat => .ok (.ofString (a.display ++ b.display))
  | .times => a.times b
  | .quotient => Value.division (· / ·) a b
  | .remainder => Value.division (· % ·) a b

/-- The value that decides an operation when the first operand is enough. -/
def BinaryOp.decidedBy (op : BinaryOp) (a : Value) : Option Value :=
  match op with
  | .either => if a.isTrue then some a else none
  | .both => if a.isTrue then none else some a
  | _ => none

end AddonPackager.Template
