import TraceQuery.Filter.Value
import TraceQuery.Sql.Like
import TraceQuery.Sql.Predicate

/-! The operators of filters: their names, the values they take and the conditions they ask. -/

set_option autoImplicit false
namespace TraceQuery

inductive Operator
  | equals
  | isIn
  | notIn
  | contains
  | notContains
  | present
  | absent
  | greater
  | greaterOrEqual
  | less
  | lessOrEqual
  deriving DecidableEq, Repr

inductive Arity
  | none
  | scalar
  | text
  | list
  deriving DecidableEq, Repr

def Arity.description : Arity → String
  | .none => "no value"
  | .scalar => "a single scalar value"
  | .text => "a string value"
  | .list => "a non-empty list value"

inductive Argument
  | none
  | scalar (s : Scalar)
  | text (s : String)
  | list (items : List Scalar)
  deriving DecidableEq

def Scalar.bindValue : Scalar → Sql.BindValue
  | .bool true => .integer 1
  | .bool false => .integer 0
  | .integer n => .integer n
  | .float x => .real x
  | .text s => .text s

namespace Operator

def all : List Operator :=
  [.equals, .isIn, .notIn, .contains, .notContains, .present, .absent, .greater, .greaterOrEqual,
    .less, .lessOrEqual]

def name : Operator → String
  | .equals => "equals"
  | .isIn => "in"
  | .notIn => "not_in"
  | .contains => "contains"
  | .notContains => "not_contains"
  | .present => "exists"
  | .absent => "not_exists"
  | .greater => "gt"
  | .greaterOrEqual => "gte"
  | .less => "lt"
  | .lessOrEqual => "lte"

def ofName? (name : String) : Option Operator :=
  all.find? (·.name == name)

def arity : Operator → Arity
  | .present | .absent => .none
  | .isIn | .notIn => .list
  | .contains | .notContains => .text
  | .equals | .greater | .greaterOrEqual | .less | .lessOrEqual => .scalar

def isNegative : Operator → Bool
  | .notIn | .notContains | .absent => true
  | _ => false

/-- The operator that a negative one negates; every other operator is its own. -/
def positive : Operator → Operator
  | .notIn => .isIn
  | .notContains => .contains
  | .absent => .present
  | o => o

def argument? (o : Operator) (value : Option FilterValue) : Option Argument :=
  match o.arity, value with
  | .none, none => some .none
  | .scalar, some (.scalar s) => some (.scalar s)
  | .text, some (.scalar (.text s)) => some (.text s)
  | .list, some (.list (item :: items)) => some (.list (item :: items))
  | _, _ => none

def comparison : Operator → Sql.Comparison
  | .greater => .greater
  | .greaterOrEqual => .greaterOrEqual
  | .less => .less
  | .lessOrEqual => .lessOrEqual
  | _ => .equal

/-- An argument of another operator's shape is compared with if it is a scalar, and else asks what
never holds. -/
def condition (o : Operator) (argument : Argument) : Sql.Condition :=
  match o, argument with
  | .present, _ => .present
  | .absent, _ => .absent
  | .isIn, .list items => .isIn (items.map Scalar.bindValue)
  | .notIn, .list items => .notIn (items.map Scalar.bindValue)
  | .contains, .text s => .like (Sql.Like.containing s)
  | .notContains, .text s => .notLike (Sql.Like.containing s)
  | o, .scalar s => .compare o.comparison s.bindValue
  | _, _ => .never

end Operator

end TraceQuery
