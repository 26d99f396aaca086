import TraceQuery.Query.Scope

/-!
The statement that counts the values of one tag. An attribute of an event or a link counts once
for every event or link that has it.
-/

set_option autoImplicit false
namespace TraceQuery

open Sql (BindValue Predicate Statement whereText whereParams)

structure TagValuesPlan where
  tag : TagLocation
  predicates : List Predicate
  maxValues : Option UInt32
  deriving DecidableEq

namespace TagValuesPlan

def countedText : TagLocation → String
  | .column name => name
  | .attribute column _ => "json_extract(" ++ column ++ ", ?)"
  | .element _ _ => "json_extract(tag_item.value, ?)"

def countedParams : TagLocation → List BindValue
  | .column _ => []
  | .attribute _ path | .element _ path => [.text path]

def sourceText : TagLocation → String
  | .column _ | .attribute _ _ => spansTable
  | .element column _ => spansTable ++ ", json_each(" ++ column ++ ") AS tag_item"

def limitText : Option UInt32 → String
  | none => ""
  | some _ => " LIMIT ?"

def limitParams (maxValues : Option UInt32) : List BindValue :=
  (maxValues.map fun n => .integer (Int64.ofNat n.toNat)).toList

/-- The group of nulls is left out before the values are limited. -/
def statement (plan : TagValuesPlan) : Statement :=
  { sql := "SELECT " ++ countedText plan.tag ++ " AS tag_value, COUNT(*) AS tag_count FROM " ++
      sourceText plan.tag ++ whereText plan.predicates ++
      " GROUP BY tag_value HAVING tag_value IS NOT NULL ORDER BY tag_count DESC" ++
      limitText plan.maxValues
    params := countedParams plan.tag ++ whereParams plan.predicates ++ limitParams plan.maxValues }

end TagValuesPlan

def TagValuesRequest.plan (r : TagValuesRequest) (tag : String) (registry : Registry)
    (maxValues : Option UInt32) : Except BuildError TagValuesPlan :=
  match registry.resolve tag with
  | .error e => .error e
  | .ok location =>
    match scopePredicates registry r.filters r.timeframe with
    | .error e => .error e
    | .ok predicates => .ok { tag := location, predicates, maxValues }

end TraceQuery
