import TraceQuery.Filter.Operator

/-! Why a request cannot be turned into a statement. -/

set_option autoImplicit false
namespace TraceQuery

inductive KeyFault
  | empty
  | doubleQuote
  | noName
  deriving DecidableEq, Repr

def KeyFault.message : KeyFault → String
  | .empty => "empty key"
  | .doubleQuote => "double quotes are not allowed"
  | .noName => "missing attribute name"

inductive BuildError
  | unknownOperator (name : String)
  | malformedKey (key : String) (fault : KeyFault)
  | invalidValue (key : String) (operator : Operator)
  | invalidSortField (name : String)
  | invalidPageSize
  deriving DecidableEq, Repr

def BuildError.message : BuildError → String
  | .unknownOperator name => s!"unknown operator '{name}'"
  | .malformedKey key fault => s!"malformed tag key '{key}': {fault.message}"
  | .invalidValue key operator =>
    s!"operator '{operator.name}' on '{key}' requires {operator.arity.description}"
  | .invalidSortField name => s!"cannot sort by '{name}'"
  | .invalidPageSize => "page size must be greater than zero"

end TraceQuery
