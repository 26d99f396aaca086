import TraceQuery.Sql.Statement

/-!
Predicates over the span table as data, with their text and their parameters. Neither the text
nor the number of parameters depends on the values compared with.
-/

set_option autoImplicit false
namespace TraceQuery.Sql

inductive Operand
  | column (name : String)
  | member (document path : String)
  deriving DecidableEq

namespace Operand

def value : Operand → String
  | .column name => name
  | .member document _ => "json_extract(" ++ document ++ ", ?)"

/-- Null only where there is no value; a JSON null is present. -/
def presence : Operand → String
  | .column name => name
  | .member document _ => "json_type(" ++ document ++ ", ?)"

def params : Operand → List BindValue
  | .column _ => []
  | .member _ path => [.text path]

end Operand

inductive Comparison
  | equal
  | greater
  | greaterOrEqual
  | less
  | lessOrEqual
  deriving DecidableEq, Repr

def Comparison.symbol : Comparison → String
  | .equal => "="
  | .greater => ">"
  | .greaterOrEqual => ">="
  | .less => "<"
  | .lessOrEqual => "<="

/-- What is asked of an operand. The negative conditions hold of an absent operand too. -/
inductive Condition
  | compare (comparison : Comparison) (value : BindValue)
  | isIn (values : List BindValue)
  | notIn (values : List BindValue)
  | like (pattern : String)
  | notLike (pattern : String)
  | present
  | absent
  | never
  deriving DecidableEq

namespace Condition

def marks (values : List BindValue) : String :=
  joined ", " (values.map fun _ => "?")

def text (o : Operand) : Condition → String
  | .compare comparison _ => o.value ++ " " ++ comparison.symbol ++ " ?"
  | .isIn values => o.value ++ " IN (" ++ marks values ++ ")"
  | .notIn values =>
    "(" ++ o.value ++ " IS NULL OR " ++ o.value ++ " NOT IN (" ++ marks values ++ "))"
  | .like _ => o.value ++ " LIKE ? ESCAPE '\\'"
  | .notLike _ =>
    "(" ++ o.value ++ " IS NULL OR " ++ o.value ++ " NOT LIKE ? ESCAPE '\\')"
  | .present => o.presence ++ " IS NOT NULL"
  | .absent => o.presence ++ " IS NULL"
  | .never => "0=1"

def params (o : Operand) : Condition → List BindValue
  | .compare _ value => o.params ++ [value]
  | .isIn values => o.params ++ values
  | .notIn values => o.params ++ o.params ++ values
  | .like pattern => o.params ++ [.text pattern]
  | .notLike pattern => o.params ++ o.params ++ [.text pattern]
  | .present | .absent => o.params
  | .never => []

end Condition

inductive Predicate
  | test (operand : Operand) (condition : Condition)
  | someElement (column path : String) (condition : Condition)
  | noElement (column path : String) (condition : Condition)
  deriving DecidableEq

namespace Predicate

def element (path : String) : Operand :=
  .member "nested_item.value" path

def existsText (column path : String) (condition : Condition) : String :=
  "EXISTS (SELECT 1 FROM json_each(" ++ column ++ ") AS nested_item WHERE " ++
    condition.text (element path) ++ ")"

def text : Predicate → String
  | .test operand condition => condition.text operand
  | .someElement column path condition => existsText column path condition
  | .noElement column path condition => "NOT " ++ existsText column path condition

def params : Predicate → List BindValue
  | .test operand condition => condition.params operand
  | .someElement _ path condition | .noElement _ path condition => condition.params (element path)

end Predicate

/-- The condition that all predicates hold; nothing where there are none. -/
def whereText (predicates : List Predicate) : String :=
  if predicates.isEmpty then "" else " WHERE " ++ joined " AND " (predicates.map Predicate.text)

def whereParams (predicates : List Predicate) : List BindValue :=
  predicates.flatMap Predicate.params

end TraceQuery.Sql
