import TraceQuery.Filter.Predicate
import TraceQuery.Query.Request
import TraceQuery.Word

/-! Which spans a request is about: its filters in order, then the bounds of its timeframe. -/

set_option autoImplicit false
namespace TraceQuery

open Sql (BindValue Predicate)

def spansTable : String := "spans"

/-- The greatest stored integer stands for all beyond it. -/
def saturated (n : UInt64) : Int64 :=
  (Word.int64? n.toNat).getD Int64.maxValue

def startBound (n : UInt64) : Predicate :=
  .test (.column "spans.start_time_unix_nano") (.compare .greaterOrEqual (.integer (saturated n)))

def stopBound (n : UInt64) : Predicate :=
  .test (.column "spans.end_time_unix_nano") (.compare .lessOrEqual (.integer (saturated n)))

def Timeframe.predicates (t : Timeframe) : List Predicate :=
  (t.start.map startBound).toList ++ (t.stop.map stopBound).toList

def timeframePredicates : Option Timeframe → List Predicate
  | none => []
  | some t => t.predicates

def scopePredicates (registry : Registry) (filters : List SearchFilter)
    (timeframe : Option Timeframe) : Except BuildError (List Predicate) :=
  match SearchFilter.predicates registry filters with
  | .error e => .error e
  | .ok ps => .ok (ps ++ timeframePredicates timeframe)

end TraceQuery
