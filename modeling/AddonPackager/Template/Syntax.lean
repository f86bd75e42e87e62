import AddonPackager.Template.Value

/-! What templates consist of: expressions and statements. Of the whole language these are left out:
numbers that are not whole, with `/` and `**`, the tests behind `is`, named arguments, slices, loops
over pairs, blocks as values, macros, and templates that use other templates. They are read as faults
of the syntax.
-/

namespace AddonPackager.Template

/-- Operations on two values. -/
inductive BinaryOp where
  | either
  | both
  | equal
  | different
  | less
  | atMost
  | greater
  | atLeast
  /-- The left value is held by the right one. -/
  | within
  | notWithin
  | plus
  | minus
  /-- The displays of both values one after the other. -/
  | concat
  | times
  | quotient
  | remainder
  deriving DecidableEq, Repr

/-- An expression. -/
inductive Expr where
  | constant (value : Value)
  | variable (name : String)
  | list (items : List Expr)
  | map (entries : List (Expr × Expr))
  | negation (operand : Expr)
  | opposite (operand : Expr)
  | binary (op : BinaryOp) (left right : Expr)
  /-- One of two values by a condition; without the other one the value may be undefined. -/
  | choice (condition yes : Expr) (no : Option Expr)
  /-- What a map holds under a name. -/
  | member (base : Expr) (name : String)
  /-- What a list or map holds at a place. -/
  | item (base place : Expr)
  | filtered (operand : Expr) (filter : String) (arguments : List Expr)
  | call (function : Expr) (arguments : List Expr)
  | method (base : Expr) (name : String) (arguments : List Expr)
  deriving Inhabited

/-- A statement. -/
inductive Statement where
  | text (content : String)
  | print (value : Expr)
  | choose (condition : Expr) (yes no : List Statement)
  /-- Runs once for each item; the other branch runs if there is none. -/
  | loop (name : String) (source : Expr) (body otherwise : List Statement)
  | assign (name : String) (value : Expr)
  deriving Inhabited

end AddonPackager.Template
