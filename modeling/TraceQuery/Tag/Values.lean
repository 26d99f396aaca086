import TraceQuery.NameMap

/-! The values that a tag takes, with how often each occurs, and statistics of tags. -/

set_option autoImplicit false
namespace TraceQuery

inductive TagValue
  | integer (n : Int64)
  | real (x : Float)
  | text (s : String)
  deriving DecidableEq

structure TagValueInfo where
  value : TagValue
  count : UInt64
  deriving DecidableEq

structure TagValues where
  values : List TagValueInfo
  deriving DecidableEq

structure TagStatistics where
  statistics : NameMap Float
  deriving DecidableEq

end TraceQuery
