/-! Filters over tags, as a request states them. -/

set_option autoImplicit false
namespace TraceQuery

inductive Scalar
  | bool (b : Bool)
  | integer (n : Int64)
  | float (x : Float)
  | text (s : String)
  deriving DecidableEq

inductive FilterValue
  | list (items : List Scalar)
  | scalar (s : Scalar)
  deriving DecidableEq

/-- The operator is a name here, and is looked up when a query is built. -/
structure SearchFilter where
  key : String
  operator : String
  value : Option FilterValue
  deriving DecidableEq

end TraceQuery
