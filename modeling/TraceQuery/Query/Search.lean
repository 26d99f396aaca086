import TraceQuery.Query.Scope
import TraceQuery.Span.Columns

/-!
The statement of a search. A page begins strictly past the boundary, which is the sort value of
the last span of the page before.
-/

set_option autoImplicit false
namespace TraceQuery

open Sql (BindValue Comparison Predicate Statement joined whereText whereParams)

structure PageLimits where
  defaultSize : UInt32
  maxSize : UInt32
  deriving DecidableEq, Repr

def PageLimits.standard : PageLimits :=
  ⟨100, 1000⟩

structure SearchPlan where
  predicates : List Predicate
  sort : SortField
  direction : SortDirection
  pageSize : UInt32
  deriving DecidableEq

namespace SearchPlan

def orderText (plan : SearchPlan) : String :=
  " ORDER BY " ++ plan.sort.column ++ " " ++ plan.direction.keyword ++ ", spans.span_id " ++
    plan.direction.keyword ++ " LIMIT ?"

def statement (plan : SearchPlan) : Statement :=
  { sql := "SELECT " ++ joined ", " spanColumns ++ " FROM " ++ spansTable ++
      whereText plan.predicates ++ plan.orderText
    params := whereParams plan.predicates ++ [.integer (Int64.ofNat plan.pageSize.toNat)] }

end SearchPlan

/-- Past a boundary lies what is less when sorting downwards, and what is greater upwards. -/
def SortDirection.past : SortDirection → Comparison
  | .descending => .less
  | .ascending => .greater

def boundaryPredicate (sort : SortField) (direction : SortDirection) (boundary : Int64) :
    Predicate :=
  .test (.column sort.column) (.compare direction.past (.integer boundary))

namespace SearchRequest

def effectiveSort (r : SearchRequest) : Except BuildError (SortField × SortDirection) :=
  match r.sort with
  | none => .ok (.standard, .standard)
  | some spec =>
    match SortField.ofName? spec.field with
    | none => .error (.invalidSortField spec.field)
    | some field => .ok (field, spec.direction)

def effectivePageSize (limit : Option UInt32) (limits : PageLimits) : Except BuildError UInt32 :=
  match limit with
  | none => .ok (min limits.defaultSize limits.maxSize)
  | some n => if n = 0 then .error .invalidPageSize else .ok (min n limits.maxSize)

def plan (r : SearchRequest) (boundary : Option Int64) (registry : Registry)
    (limits : PageLimits) : Except BuildError SearchPlan :=
  match r.effectiveSort with
  | .error e => .error e
  | .ok (sort, direction) =>
    match effectivePageSize r.limit limits with
    | .error e => .error e
    | .ok pageSize =>
      match scopePredicates registry r.filters r.timeframe with
      | .error e => .error e
      | .ok scope =>
        .ok
          { predicates := scope ++ (boundary.map (boundaryPredicate sort direction)).toList
            sort, direction, pageSize }

end SearchRequest

end TraceQuery
