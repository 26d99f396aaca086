import Mathlib.Data.List.Sort
import Mathlib.Data.Prod.Lex
import Mathlib.Data.String.Basic
import TraceQuery.Proofs.Query.Select
import TraceQuery.Proofs.Span.OfRow

/-!
What a store answers to the statement of a search. Rows that the order does not tell apart stand
as they are stored, so the answer is one list for each list of rows. A boundary takes away what is
not past it and leaves the rest in order.
-/

set_option autoImplicit false
namespace TraceQuery

/-- What a store makes of conditions and of the order of values. -/
structure Engine where
  holds : Clause → Row → Bool
  le : ColumnValue → ColumnValue → Bool
  holds_past (column : String) (direction : SortDirection) (b n : Int64) (row : Row) :
    row.value column = .integer n →
      holds (.past column direction b) row = decide (direction.Past n.toInt b.toInt)
  le_integer (m n : Int64) : le (.integer m) (.integer n) = decide (m.toInt ≤ n.toInt)
  total (v w : ColumnValue) : le v w ∨ le w v
  transitive (u v w : ColumnValue) : le u v → le v w → le u w

namespace Engine

variable (e : Engine)

/-- The order by the first of some columns that tells two rows apart. -/
def lexLe : List String → Row → Row → Bool
  | [], _, _ => true
  | column :: rest, x, y =>
    e.le (x.value column) (y.value column) &&
      (!e.le (y.value column) (x.value column) || lexLe rest x y)

theorem lexLe_total (columns : List String) (x y : Row) :
    e.lexLe columns x y ∨ e.lexLe columns y x := by
  induction columns with
  | nil => exact .inl rfl
  | cons column rest ih =>
    simp only [lexLe]
    cases left : e.le (x.value column) (y.value column) with
    | false =>
      have right : e.le (y.value column) (x.value column) = true := by
        simpa [left] using e.total (x.value column) (y.value column)
      simp [right]
    | true =>
      cases right : e.le (y.value column) (x.value column) with
      | false => simp
      | true => simpa using ih

theorem lexLe_trans (columns : List String) {x y z : Row} (left : e.lexLe columns x y)
    (right : e.lexLe columns y z) : e.lexLe columns x z := by
  induction columns with
  | nil => rfl
  | cons column rest ih =>
    simp only [lexLe, Bool.and_eq_true, Bool.or_eq_true, Bool.not_eq_true'] at left right ⊢
    refine ⟨e.transitive _ _ _ left.1 right.1, ?_⟩
    -- If z and x tie in this column, then y ties with both, and the rest decides.
    cases back : e.le (z.value column) (x.value column) with
    | false => exact .inl rfl
    | true =>
      have yx := e.transitive _ _ _ right.1 back
      have zy := e.transitive _ _ _ back left.1
      have first := left.2.resolve_left (by simp [yx])
      have second := right.2.resolve_left (by simp [zy])
      exact .inr (ih first second)

theorem lexLe_integer {column : String} {rest : List String} {x y : Row} {m n : Int64}
    (le : e.lexLe (column :: rest) x y) (left : x.value column = .integer m)
    (right : y.value column = .integer n) : m.toInt ≤ n.toInt := by
  simp only [lexLe, Bool.and_eq_true] at le
  simpa [left, right, e.le_integer] using le.1

end Engine

/-! ## A store without filters -/

def Clause.boundary? (c : Clause) : Option (String × SortDirection × Int64) :=
  let chars := c.text.toList
  let column := String.ofList (chars.take (chars.length - 4))
  match chars.drop (chars.length - 4), c.params with
  | [' ', '>', ' ', '?'], [.integer b] => some (column, .ascending, b)
  | [' ', '<', ' ', '?'], [.integer b] => some (column, .descending, b)
  | _, _ => none

theorem Clause.boundary?_past (column : String) (direction : SortDirection) (b : Int64) :
    (Clause.past column direction b).boundary? = some (column, direction, b) := by
  have ascending : (column ++ " > ?").toList = column.toList ++ [' ', '>', ' ', '?'] := by
    rw [String.toList_append]
    rfl
  have descending : (column ++ " < ?").toList = column.toList ++ [' ', '<', ' ', '?'] := by
    rw [String.toList_append]
    rfl
  cases direction <;> simp [past, boundary?, ascending, descending]

theorem Clause.past_inj {column column' : String} {direction direction' : SortDirection}
    {b b' : Int64} (same : past column direction b = past column' direction' b') :
    column = column' ∧ direction = direction' ∧ b = b' := by
  simpa [boundary?_past] using congrArg boundary? same

def ColumnValue.rank : ColumnValue → Nat ×ₗ Int ×ₗ String
  | .null => toLex (0, toLex (0, ""))
  | .integer n => toLex (1, toLex (n.toInt, ""))
  | .real _ => toLex (2, toLex (0, ""))
  | .text s => toLex (3, toLex (0, s))
  | .blob _ => toLex (4, toLex (0, ""))

/-- A store to which boundaries are the only conditions, and all reals one, and all blobs. -/
def Engine.plain : Engine where
  holds c row :=
    match c.boundary? with
    | none => true
    | some (column, direction, b) =>
      match row.value column with
      | .integer n => direction.Past n.toInt b.toInt
      | _ => false
  le v w := v.rank ≤ w.rank
  holds_past column direction b n row stored := by simp [Clause.boundary?_past, stored]
  le_integer m n := by
    apply decide_eq_decide.2
    simp only [ColumnValue.rank, Prod.Lex.toLex_le_toLex, le_iff_lt_or_eq (a := m.toInt)]
    simp
  total v w := by simpa using le_total v.rank w.rank
  transitive u v w := by simpa using le_trans

/-! ## Answers -/

namespace Select

variable (q : Select) (e : Engine)

def meets (row : Row) : Bool :=
  q.conditions.all (e.holds · row)

/-- What stands first: the order of the column, then that of the span, in one direction. -/
def inOrder (x y : Row) : Bool :=
  match q.direction with
  | .ascending => e.lexLe [q.order, "spans.span_id"] x y
  | .descending => e.lexLe [q.order, "spans.span_id"] y x

theorem inOrder_total (x y : Row) : q.inOrder e x y ∨ q.inOrder e y x := by
  unfold inOrder
  cases q.direction with
  | ascending => exact e.lexLe_total _ x y
  | descending => exact e.lexLe_total _ y x

theorem inOrder_trans {x y z : Row} (left : q.inOrder e x y) (right : q.inOrder e y z) :
    q.inOrder e x z := by
  unfold inOrder at left right ⊢
  cases way : q.direction with
  | ascending =>
    simp only [way] at left right
    exact e.lexLe_trans _ left right
  | descending =>
    simp only [way] at left right
    exact e.lexLe_trans _ right left

instance : Std.Total (q.inOrder e · ·) := ⟨q.inOrder_total e⟩

instance : IsTrans Row (q.inOrder e · ·) := ⟨fun _ _ _ => q.inOrder_trans e⟩

theorem not_past_of_inOrder {x y : Row} {m n : Int64} (before : q.inOrder e x y)
    (left : x.value q.order = .integer m) (right : y.value q.order = .integer n) :
    ¬q.direction.Past m.toInt n.toInt := by
  unfold inOrder at before
  cases way : q.direction with
  | ascending =>
    simp only [way] at before
    exact Int.not_lt.2 (e.lexLe_integer before left right)
  | descending =>
    simp only [way] at before
    exact Int.not_lt.2 (e.lexLe_integer before right left)

def ordered (stored : List Row) : List Row :=
  (stored.filter (q.meets e)).insertionSort (q.inOrder e · ·)

def answer (stored : List Row) : List Row :=
  (q.ordered e stored).take q.size.toNat

theorem pairwise_ordered (stored : List Row) : (q.ordered e stored).Pairwise (q.inOrder e · ·) :=
  List.pairwise_insertionSort (q.inOrder e · ·) _

end Select

/-! ## Boundaries -/

section
variable {α : Type} {r : α → α → Prop} [DecidableRel r] [IsTrans α r]

theorem filter_orderedInsert (p : α → Bool) (a : α) {l : List α} (sorted : l.Pairwise r) :
    (l.orderedInsert r a).filter p =
      if p a then (l.filter p).orderedInsert r a else l.filter p := by
  induction sorted with
  | nil => cases kept : p a <;> simp [kept]
  | @cons b l bound sorted ih =>
    rw [List.orderedInsert_cons]
    by_cases before : r a b
    · rw [if_pos before]
      cases kept : p a with
      | false => simp [kept]
      | true =>
        -- What stands behind a stood behind b, so a goes to the front also when b is left out.
        have all : ∀ c ∈ (b :: l).filter p, r a c := by
          intro c member
          rcases List.mem_cons.1 (List.mem_filter.1 member).1 with rfl | member
          · exact before
          · exact IsTrans.trans a b c before (bound c member)
        rw [List.filter_cons_of_pos kept]
        cases rest : (b :: l).filter p with
        | nil => simp
        | cons c rest =>
          have first : r a c := all c (by rw [rest]; exact List.mem_cons_self)
          simp [List.orderedInsert_cons, first]
    · rw [if_neg before]
      cases other : p b with
      | false => simp [other, ih]
      | true =>
        cases kept : p a <;> simp [other, kept, ih, List.orderedInsert_cons, before]

theorem filter_insertionSort [Std.Total r] (p : α → Bool) (l : List α) :
    (l.insertionSort r).filter p = (l.filter p).insertionSort r := by
  induction l with
  | nil => rfl
  | cons a l ih =>
    rw [List.insertionSort_cons, filter_orderedInsert p a (List.pairwise_insertionSort r l), ih]
    cases kept : p a <;> simp [kept]

end

theorem Select.ordered_concat (q : Select) (e : Engine) (c : Clause) (stored : List Row) :
    ({ q with conditions := q.conditions ++ [c] } : Select).ordered e stored =
      (q.ordered e stored).filter (e.holds c) := by
  have both : ({ q with conditions := q.conditions ++ [c] } : Select).meets e =
      fun row => e.holds c row && q.meets e row := by
    funext row
    simp [meets, Bool.and_comm]
  unfold ordered
  -- Sorting is stable, so rows may be left out before it or after it.
  rw [filter_insertionSort, List.filter_filter, ← both]
  rfl

end TraceQuery
