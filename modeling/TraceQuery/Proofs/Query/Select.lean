import TraceQuery.Query.Search

/-!
What the statement of a search asks of a store: of the rows that meet all its conditions, in the
order of one column and then of the span, the first ones up to a number. What a condition says of
a row is the store's affair, except for the boundary of a page.
-/

set_option autoImplicit false
namespace TraceQuery

open Sql (BindValue Statement)

namespace SortDirection

/-- Strictly further on in this direction. -/
def Past : SortDirection → Int → Int → Prop
  | .ascending, n, b => b < n
  | .descending, n, b => n < b

instance (direction : SortDirection) (n b : Int) : Decidable (direction.Past n b) := by
  cases direction <;> exact Int.decLt _ _

variable {direction : SortDirection} {k m n : Int}

theorem Past.trans (second : direction.Past k m) (first : direction.Past m n) :
    direction.Past k n := by
  cases direction with
  | ascending => exact Int.lt_trans first second
  | descending => exact Int.lt_trans second first

theorem Past.irrefl : ¬direction.Past n n := by
  cases direction <;> exact Int.lt_irrefl n

theorem Past.of_not_past (further : direction.Past k m) (before : ¬direction.Past n m) :
    direction.Past k n := by
  cases direction <;> simp only [Past] at further before ⊢ <;> omega

theorem eq_of_not_past (left : ¬direction.Past m n) (right : ¬direction.Past n m) : m = n := by
  cases direction <;> simp only [Past] at left right <;> omega

theorem past_of_ne (before : ¬direction.Past m n) (other : m ≠ n) : direction.Past n m := by
  cases direction <;> simp only [Past] at before ⊢ <;> omega

end SortDirection

/-! ## Statements -/

structure Clause where
  text : String
  params : List BindValue

def Clause.past (column : String) (direction : SortDirection) (b : Int64) : Clause :=
  match direction with
  | .ascending => ⟨column ++ " > ?", [.integer b]⟩
  | .descending => ⟨column ++ " < ?", [.integer b]⟩

structure Select where
  conditions : List Clause
  /-- The column that the rows are ordered by, before the span. -/
  order : String
  direction : SortDirection
  size : UInt32

namespace Select

def whereText (q : Select) : String :=
  match q.conditions with
  | [] => ""
  | conditions => " WHERE " ++ Sql.joined " AND " (conditions.map (·.text))

def word : SortDirection → String
  | .ascending => "ASC"
  | .descending => "DESC"

def orderText (q : Select) : String :=
  " ORDER BY " ++ q.order ++ " " ++ word q.direction ++ ", spans.span_id " ++ word q.direction ++
    " LIMIT ?"

def statement (q : Select) : Statement :=
  { sql := "SELECT " ++ Sql.joined ", " spanColumns ++ " FROM spans" ++ q.whereText ++ q.orderText
    params := q.conditions.flatMap (·.params) ++ [.integer (Int64.ofNat q.size.toNat)] }

end Select

namespace SearchPlan

def clause (p : Sql.Predicate) : Clause :=
  ⟨p.text, p.params⟩

def select (plan : SearchPlan) : Select :=
  ⟨plan.predicates.map clause, plan.sort.column, plan.direction, plan.pageSize⟩

theorem whereText_select (plan : SearchPlan) :
    plan.select.whereText = Sql.whereText plan.predicates := by
  obtain ⟨predicates, sort, direction, pageSize⟩ := plan
  cases predicates with
  | nil => rfl
  | cons p rest => simp [select, Select.whereText, Sql.whereText, clause, Function.comp_def]

theorem params_select (plan : SearchPlan) :
    plan.select.conditions.flatMap (·.params) = Sql.whereParams plan.predicates := by
  simp [select, Sql.whereParams, List.flatMap_map, clause]

theorem orderText_select (plan : SearchPlan) : plan.select.orderText = plan.orderText := by
  obtain ⟨predicates, sort, direction, pageSize⟩ := plan
  cases direction <;> rfl

theorem statement_select (plan : SearchPlan) : plan.select.statement = plan.statement := by
  have table : " FROM spans" = " FROM " ++ spansTable := rfl
  rw [Select.statement, statement, whereText_select, params_select, orderText_select, table,
    ← String.append_assoc]
  rfl

theorem clause_boundaryPredicate (sort : SortField) (direction : SortDirection) (b : Int64) :
    clause (boundaryPredicate sort direction b) = .past sort.column direction b := by
  cases direction <;> cases sort <;> rfl

end SearchPlan

def SearchPlan.from (first : SearchPlan) (b : Int64) : SearchPlan :=
  { first with
    predicates := first.predicates ++ [boundaryPredicate first.sort first.direction b] }

end TraceQuery
