import TraceQuery.Tag.Location

/-! A filter as a predicate over the span table. -/

set_option autoImplicit false
namespace TraceQuery

open Sql (Predicate)

/--
On a single value the operator's own condition is asked. On the elements of an array a negative
operator asks that its positive counterpart holds of none.
-/
def Operator.predicate (o : Operator) (argument : Argument) : TagLocation → Predicate
  | .column name => .test (.column name) (o.condition argument)
  | .attribute column path => .test (.member column path) (o.condition argument)
  | .element column path =>
    if o.isNegative then .noElement column path (o.positive.condition argument)
    else .someElement column path (o.positive.condition argument)

namespace SearchFilter

def predicate (f : SearchFilter) (registry : Registry) : Except BuildError Predicate :=
  match Operator.ofName? f.operator with
  | none => .error (.unknownOperator f.operator)
  | some o =>
    match o.argument? f.value with
    | none => .error (.invalidValue f.key o)
    | some argument =>
      match registry.resolve f.key with
      | .error e => .error e
      | .ok location => .ok (o.predicate argument location)

def predicates (registry : Registry) : List SearchFilter → Except BuildError (List Predicate)
  | [] => .ok []
  | f :: rest =>
    match f.predicate registry with
    | .error e => .error e
    | .ok p =>
      match predicates registry rest with
      | .error e => .error e
      | .ok ps => .ok (p :: ps)

end SearchFilter

end TraceQuery
