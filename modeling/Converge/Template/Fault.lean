/-!
# Faults of templates

What can go wrong when a template is read or evaluated, and the name of each kind of fault.
-/

namespace Converge.Template

/-- A kind of fault. -/
inductive Fault where
  | syntaxError
  | badEscape
  | undefinedValue
  | invalidOperation
  | unknownFilter
  | unknownTest
  | unknownFunction
  | unknownMethod
  | templateNotFound
  | tooManyArguments
  | missingArgument
  | cannotUnpack
  | unknownBlock
deriving DecidableEq

/-- The name of a kind of fault. -/
def Fault.name : Fault → String
  | syntaxError => "syntax error"
  | badEscape => "bad string escape"
  | undefinedValue => "undefined value"
  | invalidOperation => "invalid operation"
  | unknownFilter => "unknown filter"
  | unknownTest => "unknown test"
  | unknownFunction => "unknown function"
  | unknownMethod => "unknown method"
  | templateNotFound => "template not found"
  | tooManyArguments => "too many arguments"
  | missingArgument => "missing argument"
  | cannotUnpack => "cannot unpack"
  | unknownBlock => "unknown block"

end Converge.Template
