/-! What can be wrong with a template or with the values it is rendered with.
-/

namespace AddonPackager.Template

/-- Why rendering fails. -/
inductive Fault where
  /-- The source is no template. -/
  | syntaxError
  /-- A text literal holds an escape that does not exist. -/
  | badEscape
  /-- An attribute or item of an undefined value is used. -/
  | undefinedError
  | unknownFilter
  | unknownFunction
  | unknownMethod
  /-- An operation does not apply to its operands. -/
  | invalidOperation
  | missingArgument
  | tooManyArguments
  deriving DecidableEq, Repr

/-- The name of a fault. -/
def Fault.name : Fault → String
  | .syntaxError => "SyntaxError"
  | .badEscape => "BadEscape"
  | .undefinedError => "UndefinedError"
  | .unknownFilter => "UnknownFilter"
  | .unknownFunction => "UnknownFunction"
  | .unknownMethod => "UnknownMethod"
  | .invalidOperation => "InvalidOperation"
  | .missingArgument => "MissingArgument"
  | .tooManyArguments => "TooManyArguments"

def Fault.message : Fault → String
  | .syntaxError => "syntax error"
  | .badEscape => "bad string escape"
  | .undefinedError => "undefined value"
  | .unknownFilter => "unknown filter"
  | .unknownFunction => "unknown function"
  | .unknownMethod => "unknown method"
  | .invalidOperation => "invalid operation"
  | .missingArgument => "missing argument"
  | .tooManyArguments => "too many arguments"

end AddonPackager.Template
