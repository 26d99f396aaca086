import TraceQuery.Sql.Predicate

/-!
The SQL that a predicate is written as, with its operators taken apart. A predicate's text and its
parameters are those of the expression that it is read as.
-/

set_option autoImplicit false
namespace TraceQuery.Sql

/-- What an expression takes from a row. The path of a JSON function is bound. -/
inductive Term
  | column (name : String)
  | extract (document path : String)
  | type (document path : String)
  deriving DecidableEq

namespace Term

def text : Term → String
  | .column name => name
  | .extract document _ => "json_extract(" ++ document ++ ", ?)"
  | .type document _ => "json_type(" ++ document ++ ", ?)"

def params : Term → List BindValue
  | .column _ => []
  | .extract _ path | .type _ path => [.text path]

end Term

inductive Expression
  | isNull (x : Term)
  | isNotNull (x : Term)
  | compare (x : Term) (comparison : Comparison) (value : BindValue)
  | isIn (x : Term) (values : List BindValue)
  | notIn (x : Term) (values : List BindValue)
  | like (x : Term) (pattern : String)
  | notLike (x : Term) (pattern : String)
  | either (left right : Expression)
  /-- The inner expression reads the element at hand as `nested_item.value`. -/
  | someElement (column : String) (inner : Expression)
  | negation (inner : Expression)
  | falsity
  deriving DecidableEq

namespace Expression

def existsText (column inner : String) : String :=
  "EXISTS (SELECT 1 FROM json_each(" ++ column ++ ") AS nested_item WHERE " ++ inner ++ ")"

def text : Expression → String
  | .isNull x => x.text ++ " IS NULL"
  | .isNotNull x => x.text ++ " IS NOT NULL"
  | .compare x comparison _ => x.text ++ " " ++ comparison.symbol ++ " ?"
  | .isIn x values => x.text ++ " IN (" ++ Condition.marks values ++ ")"
  | .notIn x values => x.text ++ " NOT IN (" ++ Condition.marks values ++ ")"
  | .like x _ => x.text ++ " LIKE ? ESCAPE '\\'"
  | .notLike x _ => x.text ++ " NOT LIKE ? ESCAPE '\\'"
  | .either left right => "(" ++ left.text ++ " OR " ++ right.text ++ ")"
  | .someElement column inner => existsText column inner.text
  | .negation inner => "NOT " ++ inner.text
  | .falsity => "0=1"

def params : Expression → List BindValue
  | .isNull x | .isNotNull x => x.params
  | .compare x _ value => x.params ++ [value]
  | .isIn x values | .notIn x values => x.params ++ values
  | .like x pattern | .notLike x pattern => x.params ++ [.text pattern]
  | .either left right => left.params ++ right.params
  | .someElement _ inner | .negation inner => inner.params
  | .falsity => []

end Expression

/-! ## How predicates are read -/

namespace Operand

def valueTerm : Operand → Term
  | .column name => .column name
  | .member document path => .extract document path

def presenceTerm : Operand → Term
  | .column name => .column name
  | .member document path => .type document path

@[simp] theorem text_valueTerm (o : Operand) : o.valueTerm.text = o.value := by
  cases o <;> rfl

@[simp] theorem params_valueTerm (o : Operand) : o.valueTerm.params = o.params := by
  cases o <;> rfl

@[simp] theorem text_presenceTerm (o : Operand) : o.presenceTerm.text = o.presence := by
  cases o <;> rfl

@[simp] theorem params_presenceTerm (o : Operand) : o.presenceTerm.params = o.params := by
  cases o <;> rfl

end Operand

namespace Condition

def expression (o : Operand) : Condition → Expression
  | .compare comparison value => .compare o.valueTerm comparison value
  | .isIn values => .isIn o.valueTerm values
  | .notIn values => .either (.isNull o.valueTerm) (.notIn o.valueTerm values)
  | .like pattern => .like o.valueTerm pattern
  | .notLike pattern => .either (.isNull o.valueTerm) (.notLike o.valueTerm pattern)
  | .present => .isNotNull o.presenceTerm
  | .absent => .isNull o.presenceTerm
  | .never => .falsity

/-- The two arms of a negative condition stand in brackets. -/
theorem text_either (x : Term) (e : Expression) :
    (Expression.either (.isNull x) e).text = "(" ++ x.text ++ " IS NULL OR " ++ e.text ++ ")" := by
  have arms (t : String) : " IS NULL" ++ (" OR " ++ t) = " IS NULL OR " ++ t :=
    (String.append_assoc).symm
  simp only [Expression.text, String.append_assoc, arms]

theorem text_expression (o : Operand) (c : Condition) : (c.expression o).text = c.text o := by
  cases c with
  | notIn values =>
    simp only [expression, text_either, Expression.text, Operand.text_valueTerm, text,
      String.append_assoc, String.reduceAppend]
  | notLike pattern =>
    simp only [expression, text_either, Expression.text, Operand.text_valueTerm, text,
      String.append_assoc, String.reduceAppend]
  | present => simp only [expression, Expression.text, Operand.text_presenceTerm, text]
  | absent => simp only [expression, Expression.text, Operand.text_presenceTerm, text]
  | never => simp only [expression, Expression.text, text]
  | _ => simp only [expression, Expression.text, Operand.text_valueTerm, text]

theorem params_expression (o : Operand) (c : Condition) :
    (c.expression o).params = c.params o := by
  cases c <;> simp [expression, Expression.params, params]

end Condition

namespace Predicate

def expression : Predicate → Expression
  | .test operand condition => condition.expression operand
  | .someElement column path condition => .someElement column (condition.expression (element path))
  | .noElement column path condition =>
    .negation (.someElement column (condition.expression (element path)))

theorem existsText_expression (column path : String) (c : Condition) :
    Expression.existsText column (c.expression (element path)).text = existsText column path c := by
  rw [Condition.text_expression]
  rfl

theorem text_expression (p : Predicate) : p.expression.text = p.text := by
  cases p with
  | test operand condition => exact Condition.text_expression operand condition
  | someElement column path condition => exact existsText_expression column path condition
  | noElement column path condition =>
    exact congrArg ("NOT " ++ ·) (existsText_expression column path condition)

theorem params_expression (p : Predicate) : p.expression.params = p.params := by
  cases p <;> exact Condition.params_expression _ _

end Predicate

end TraceQuery.Sql
