import AddonPackager.Template.Filter
import AddonPackager.Template.Parser

/-! Rendering: the text that a template and named values make.
-/

namespace AddonPackager.Template

abbrev Frame := List (String × Value)

/-- Frames from the innermost to the outermost. -/
abbrev Scope := List Frame

/-- The value of a name: the innermost one counts. -/
def Scope.get (scope : Scope) (name : String) : Value :=
  (scope.findSome? fun frame => frame.lookup name).getD .undefined

/-- The scope with a value given to a name in its innermost frame. -/
def Scope.set (name : String) (value : Value) : Scope → Scope
  | [] => [[(name, value)]]
  | frame :: rest => ((name, value) :: frame) :: rest

/-! Expressions -/

/-- What calling a value comes to. No value can be called. -/
def call (function : Expr) (value : Value) : Except Fault Value :=
  match function, value with
  | .variable _, .undefined => .error .unknownFunction
  | _, _ => .error .invalidOperation

/-- What calling a method comes to. No value has methods, but a map may hold something of that
name.
-/
def callMethod (base : Value) (name : String) : Except Fault Value :=
  match base with
  | .map entries =>
      if entries.any (·.1 == .text name) then .error .invalidOperation else .error .unknownMethod
  | _ => .error .unknownMethod

def mapOf (entries : List (Value × Value)) : Except Fault Value :=
  match entries.mapM fun entry => entry.1.key?.map fun key => (key, entry.2) with
  | some entries => .ok (.ofEntries entries)
  | none => .error .invalidOperation

mutual

def Expr.value (scope : Scope) : Expr → Except Fault Value
  | .constant value => .ok value
  | .variable name => .ok (scope.get name)
  | .list items => (values scope items).map .list
  | .map entries => do mapOf (← pairs scope entries)
  | .negation operand => do return .bool !(← operand.value scope).isTrue
  | .opposite operand => do (← operand.value scope).opposite
  | .binary op left right => do
      let a ← left.value scope
      -- The right operand is left alone if the left one decides.
      match op.decidedBy a with
      | some result => return result
      | none => op.apply a (← right.value scope)
  | .choice condition yes no => do
      if (← condition.value scope).isTrue then yes.value scope else optional scope no
  | .member base name => do (← base.value scope).item (.ofString name)
  | .item base place => do
      let base ← base.value scope
      base.item (← place.value scope)
  | .filtered operand filter arguments => do
      let operand ← operand.value scope
      let arguments ← values scope arguments
      match Filter.table.lookup filter with
      | some f => f operand arguments
      | none => .error .unknownFilter
  | .call function arguments => do
      let _ ← values scope arguments
      call function (← function.value scope)
  | .method base name arguments => do
      let base ← base.value scope
      let _ ← values scope arguments
      callMethod base name

def values (scope : Scope) : List Expr → Except Fault (List Value)
  | [] => .ok []
  | head :: rest => do
      let value ← head.value scope
      return value :: (← values scope rest)

/-- The values of pairs of expressions in order. -/
def pairs (scope : Scope) : List (Expr × Expr) → Except Fault (List (Value × Value))
  | [] => .ok []
  | (key, entry) :: rest => do
      let key ← key.value scope
      let entry ← entry.value scope
      return (key, entry) :: (← pairs scope rest)

/-- The value of an expression that may be left out. -/
def optional (scope : Scope) : Option Expr → Except Fault Value
  | none => .ok .undefined
  | some expr => expr.value scope

end

/-! Statements -/

/-- How far a loop has come, under the names that its body can ask for. -/
def loopState (items : List Value) (index : Nat) : Value :=
  let count := items.length
  .ofNamed [
    ("index0", .integer index), ("index", .integer (index + 1)),
    ("revindex0", .integer (count - index - 1)), ("revindex", .integer (count - index)),
    ("first", .bool (index = 0)), ("last", .bool (index + 1 = count)),
    ("length", .integer count),
    ("previtem", if index = 0 then .undefined else items[index - 1]?.getD .undefined),
    ("nextitem", items[index + 1]?.getD .undefined)]

/-- Rendered text and the scope after it. -/
abbrev Rendered := String × Scope

mutual

/-- Renders a statement; `print` shows a value. -/
def Statement.render (print : Value → String) (scope : Scope)
    : Statement → Except Fault Rendered
  | .text content => .ok (content, scope)
  | .print expr => do return (print (← expr.value scope), scope)
  | .choose condition yes no => do
      if (← condition.value scope).isTrue then
        renderAll print scope yes
      else
        renderAll print scope no
  | .loop name source body otherwise => do
      let items ← (← source.value scope).elements
      if items.isEmpty then
        renderAll print scope otherwise
      else
        let (text, _) ← items.zipIdx.foldlM (fun (text, frame) (item, index) => do
          -- The frame stays over all rounds, so a name set in one is seen in the next.
          let frame := (name, item) :: ("loop", loopState items index) :: frame
          let (more, inner) ← renderAll print (frame :: scope) body
          return (text ++ more, inner.headD [])) ("", [])
        return (text, scope)
  | .assign name expr => do return ("", scope.set name (← expr.value scope))

def renderAll (print : Value → String) (scope : Scope)
    : List Statement → Except Fault Rendered
  | [] => .ok ("", scope)
  | head :: rest => do
      let (text, scope) ← head.render print scope
      let (more, scope) ← renderAll print scope rest
      return (text ++ more, scope)

end

/-- Renders the source of a template with named values. With `escaping`, printed values are
escaped for markup.
-/
def render (source : String) (escaping : Bool) (params : List (String × Value))
    : Except Fault String := do
  let statements ← parse source
  let print := if escaping then Value.displayEscaped else Value.display
  return (← renderAll print [[], params] statements).1

end AddonPackager.Template
