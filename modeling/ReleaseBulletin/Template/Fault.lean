/-!
What can go wrong while a template is rendered.
-/
namespace ReleaseBulletin.Template

/-- The kinds of rendering faults. -/
inductive Fault where
  | undefinedValue
  | invalidOperation
  | missingArgument
  | surplusArgument
  | wrongItemCount
  | unknownFilter
  | unknownTest
  | unknownFunction
  | unknownMethod
  | templateNotFound
  deriving DecidableEq, Repr

def Fault.message : Fault → String
  | .undefinedValue => "undefined value"
  | .invalidOperation => "invalid operation"
  | .missingArgument => "missing argument"
  | .surplusArgument => "too many arguments"
  | .wrongItemCount => "cannot unpack"
  | .unknownFilter => "unknown filter"
  | .unknownTest => "unknown test"
  | .unknownFunction => "unknown function"
  | .unknownMethod => "unknown method"
  | .templateNotFound => "template not found"

end ReleaseBulletin.Template
