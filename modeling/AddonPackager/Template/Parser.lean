import AddonPackager.Template.Lexical
import AddonPackager.Template.Syntax

/-! Reading templates. Parsers take tokens off a list; loops end because every round takes a
token, and nesting ends because it has a limit.
-/

namespace AddonPackager.Template

abbrev Parse (α : Type) := StateT (List Token) (Except Fault) α

namespace Parse

variable {α : Type}

/-! Tokens -/

def fail : Parse α :=
  throw .syntaxError

/-- The next token, if there is one. An invalid token fails with its fault. -/
def peek? : Parse (Option Token) := do
  match (← get).head? with
  | some (.invalid fault) => throw fault
  | token => pure token

/-- Takes the next token, if there is one. -/
def take? : Parse (Option Token) := do
  let token ← peek?
  modify List.tail
  pure token

/-- Takes the next token, which has to be there. -/
def takeToken : Parse Token := do
  match ← take? with
  | some token => pure token
  | none => fail

/-- Takes a given token if it is next. -/
def accept (token : Token) : Parse Bool := do
  if (← peek?) = some token then
    modify List.tail
    pure true
  else
    pure false

/-- Takes a given token, which has to be next. -/
def expect (token : Token) : Parse Unit := do
  if ← accept token then pure () else fail

/-- Takes a name, which has to be next. -/
def expectName : Parse String := do
  match ← takeToken with
  | .name name => pure name
  | _ => fail

/-- More rounds than a loop over the remaining tokens can need. -/
def rounds : Parse Nat := do
  pure ((← get).length + 1)

/-! Expressions -/

/-- Items separated by commas up to a closing symbol. A comma may follow the last item. -/
def sequence (item : Parse α) (closing : Symbol) : Nat → Parse (List α)
  | 0 => fail
  | steps + 1 => do
      if ← accept (.symbol closing) then
        pure []
      else
        let head ← item
        if ← accept (.symbol .comma) then
          pure (head :: (← sequence item closing steps))
        else
          expect (.symbol closing)
          pure [head]

def entry (inner : Parse Expr) : Parse (Expr × Expr) := do
  let key ← inner
  expect (.symbol .colon)
  pure (key, ← inner)

/-- The arguments of a call behind its opening parenthesis. -/
def arguments (inner : Parse Expr) : Parse (List Expr) := do
  sequence inner .closeParen (← rounds)

/-- What stands behind an opening parenthesis: an expression, or a list if there is a comma. -/
def parenthesized (inner : Parse Expr) : Parse Expr := do
  if ← accept (.symbol .closeParen) then
    pure (.list [])
  else
    let head ← inner
    if ← accept (.symbol .comma) then
      pure (.list (head :: (← arguments inner)))
    else
      expect (.symbol .closeParen)
      pure head

/-- The expression a name stands for. -/
def ofName (name : String) : Expr :=
  if name = "true" || name = "True" then .constant (.bool true)
  else if name = "false" || name = "False" then .constant (.bool false)
  else if name = "none" || name = "None" then .constant .none
  else .variable name

/-- A literal, a name or a bracketed expression. -/
def primary (inner : Parse Expr) : Parse Expr := do
  match ← takeToken with
  | .name name => pure (ofName name)
  | .text content => pure (.constant (.ofString content))
  | .integer value => pure (.constant (.integer value))
  | .symbol .openParen => parenthesized inner
  | .symbol .openBracket => .list <$> do sequence inner .closeBracket (← rounds)
  | .symbol .openBrace => .map <$> do sequence (entry inner) .closeBrace (← rounds)
  | _ => fail

/-- A primary expression behind any number of minus signs. -/
def signed (inner : Parse Expr) : Nat → Parse Expr
  | 0 => fail
  | steps + 1 => do
      if ← accept (.symbol .minus) then
        .opposite <$> signed inner steps
      else
        primary inner

/-- Members, items and calls of an expression. -/
def suffixes (inner : Parse Expr) : Nat → Expr → Parse Expr
  | 0, base => pure base
  | steps + 1, base => do
      if ← accept (.symbol .dot) then
        let name ← expectName
        if ← accept (.symbol .openParen) then
          suffixes inner steps (.method base name (← arguments inner))
        else
          suffixes inner steps (.member base name)
      else if ← accept (.symbol .openBracket) then
        let place ← inner
        expect (.symbol .closeBracket)
        suffixes inner steps (.item base place)
      else if ← accept (.symbol .openParen) then
        suffixes inner steps (.call base (← arguments inner))
      else
        pure base

def filters (inner : Parse Expr) : Nat → Expr → Parse Expr
  | 0, operand => pure operand
  | steps + 1, operand => do
      if ← accept (.symbol .pipe) then
        let name ← expectName
        let given ← if ← accept (.symbol .openParen) then arguments inner else pure []
        filters inner steps (.filtered operand name given)
      else
        pure operand

/-- A signed expression with its suffixes and filters. -/
def term (inner : Parse Expr) : Parse Expr := do
  let base ← signed inner (← rounds)
  let base ← suffixes inner (← rounds) base
  filters inner (← rounds) base

/-- Operands joined by operators, grouped from the left. -/
def chain (operand : Parse Expr) (operator? : Parse (Option BinaryOp)) : Nat → Expr → Parse Expr
  | 0, left => pure left
  | steps + 1, left => do
      match ← operator? with
      | some op => chain operand operator? steps (.binary op left (← operand))
      | none => pure left

/-- One level of operators over the next tighter one. -/
def level (operand : Parse Expr) (operator? : Parse (Option BinaryOp)) : Parse Expr := do
  let left ← operand
  chain operand operator? (← rounds) left

/-- Takes the operator of a table if one is next. -/
def operatorOf (table : List (Token × BinaryOp)) : Parse (Option BinaryOp) := do
  match (← peek?).bind fun token => table.lookup token with
  | some op =>
      modify List.tail
      pure (some op)
  | none => pure none

/-- Takes a comparison if one is next. -/
def comparison : Parse (Option BinaryOp) := do
  if ← accept (.name "not") then
    expect (.name "in")
    pure (some .notWithin)
  else
    operatorOf [(.symbol .equal, .equal), (.symbol .different, .different),
      (.symbol .less, .less), (.symbol .atMost, .atMost), (.symbol .greater, .greater),
      (.symbol .atLeast, .atLeast), (.name "in", .within)]

/-- An expression behind any number of negations. -/
def negated (operand : Parse Expr) : Nat → Parse Expr
  | 0 => fail
  | steps + 1 => do
      if ← accept (.name "not") then .negation <$> negated operand steps else operand

/-- An expression without a choice: from products over sums and comparisons to disjunctions. -/
def unconditional (inner : Parse Expr) : Parse Expr :=
  -- From the tightest operators to the loosest.
  let product := level (term inner) (operatorOf [(.symbol .times, .times),
    (.symbol .quotient, .quotient), (.symbol .remainder, .remainder)])
  let concatenation := level product (operatorOf [(.symbol .tilde, .concat)])
  let sum := level concatenation (operatorOf [(.symbol .plus, .plus), (.symbol .minus, .minus)])
  let compared := level sum comparison
  let negation := do negated compared (← rounds)
  let conjunction := level negation (operatorOf [(.name "and", .both)])
  level conjunction (operatorOf [(.name "or", .either)])

/-- Choices about an expression. -/
def choices (operand other : Parse Expr) : Nat → Expr → Parse Expr
  | 0, yes => pure yes
  | steps + 1, yes => do
      if ← accept (.name "if") then
        let condition ← operand
        if ← accept (.name "else") then
          choices operand other steps (.choice condition yes (some (← other)))
        else
          choices operand other steps (.choice condition yes none)
      else
        pure yes

/-- Operands with choices; what stands behind an else may itself be a choice. -/
def conditional (operand : Parse Expr) : Nat → Parse Expr
  | 0 => fail
  | steps + 1 => do
      let yes ← operand
      choices operand (conditional operand steps) (← rounds) yes

/-- An expression whose brackets nest at most to a depth. -/
def expression : Nat → Parse Expr
  | 0 => fail
  | depth + 1 => do conditional (unconditional (expression depth)) (← rounds)

/-- An expression without a choice, whose brackets nest at most to a depth. -/
def source : Nat → Parse Expr
  | 0 => fail
  | depth + 1 => unconditional (expression depth)

/-! Statements -/

/-- Statements up to a tag that starts with one of some words, or up to the end. -/
def statements (statement : Parse Statement) (value : Parse Expr) (ends : List String)
    : Nat → Parse (List Statement)
  | 0 => fail
  | steps + 1 => do
      match ← take? with
      | none => pure []
      | some (.data content) =>
          pure (.text content :: (← statements statement value ends steps))
      | some .printStart =>
          let printed ← value
          expect .printEnd
          pure (.print printed :: (← statements statement value ends steps))
      | some .tagStart =>
          match ← peek? with
          | some (.name word) =>
              if ends.contains word then
                pure []
              else
                let head ← statement
                expect .tagEnd
                pure (head :: (← statements statement value ends steps))
          | _ => fail
      | some _ => fail

/-- The rest of a conditional statement behind its first word. -/
def choose (value : Parse Expr) (body : List String → Parse (List Statement))
    : Nat → Parse Statement
  | 0 => fail
  | steps + 1 => do
      let condition ← value
      expect .tagEnd
      let yes ← body ["endif", "else", "elif"]
      match ← takeToken with
      | .name "else" =>
          expect .tagEnd
          let no ← body ["endif"]
          expect (.name "endif")
          pure (.choose condition yes no)
      | .name "elif" => pure (.choose condition yes [← choose value body steps])
      | _ => pure (.choose condition yes [])

/-- Names that no value can be given to. -/
def reservedNames : List String :=
  ["true", "True", "false", "False", "none", "None", "loop", "self"]

/-- A name that is given a value. -/
def target : Parse String := do
  let name ← expectName
  if reservedNames.contains name then fail else pure name

/-- The rest of a loop behind its first word. -/
def loop (items : Parse Expr) (body : List String → Parse (List Statement)) : Parse Statement := do
  let name ← target
  expect (.name "in")
  let items ← items
  expect .tagEnd
  let repeated ← body ["endfor", "else"]
  let otherwise ←
    if ← accept (.name "else") then do
      expect .tagEnd
      body ["endfor"]
    else
      pure []
  expect (.name "endfor")
  pure (.loop name items repeated otherwise)

/-- The rest of an assignment behind its first word. -/
def assign (value : Parse Expr) : Parse Statement := do
  let name ← target
  expect (.symbol .assign)
  pure (.assign name (← value))

/-- The statement of a tag, where brackets and statements nest at most to a depth. -/
def statement : Nat → Parse Statement
  | 0 => fail
  | depth + 1 => do
      let body := fun ends => do
        statements (statement depth) (expression depth) ends (← rounds)
      match ← takeToken with
      | .name "if" => do choose (expression depth) body (← rounds)
      | .name "for" => loop (source depth) body
      | .name "set" => assign (expression depth)
      | _ => fail

end Parse

/-- The depth to which brackets and statements may nest. -/
def nestingLimit : Nat := 150

def parse (source : String) : Except Fault (List Statement) :=
  let tokens := Lexical.tokens source
  let limit := nestingLimit
  (Parse.statements (Parse.statement limit) (Parse.expression limit) [] (tokens.length + 1)).run'
    tokens

end AddonPackager.Template
