import TraceQuery.Json.Value
import TraceQuery.Proofs.Sql.Expression
import TraceQuery.Row

/-!
When an expression is true of a row, in the logic of three truth values. A comparison with null is
unknown, and a row is found only if its condition is true. What a store makes of values that are
not null is open.
-/

set_option autoImplicit false
namespace TraceQuery

inductive Truth
  | true
  | false
  | unknown
  deriving DecidableEq, Repr

namespace Truth

def ofBool : Bool → Truth
  | .true => .true
  | .false => .false

def not : Truth → Truth
  | .true => .false
  | .false => .true
  | .unknown => .unknown

def or : Truth → Truth → Truth
  | .true, _ | _, .true => .true
  | .false, .false => .false
  | _, _ => .unknown

def and : Truth → Truth → Truth
  | .false, _ | _, .false => .false
  | .true, .true => .true
  | _, _ => .unknown

@[simp] theorem ofBool_eq_true_iff {b : Bool} : ofBool b = .true ↔ b = .true := by
  cases b <;> decide

@[simp] theorem ofBool_ne_unknown (b : Bool) : ofBool b ≠ .unknown := by
  cases b <;> decide

theorem not_eq_true_iff {t : Truth} (known : t ≠ .unknown) : t.not = .true ↔ t ≠ .true := by
  cases t <;> simp_all [not]

@[simp] theorem or_eq_true_iff {s t : Truth} : s.or t = .true ↔ s = .true ∨ t = .true := by
  cases s <;> cases t <;> decide

@[simp] theorem and_eq_true_iff {s t : Truth} : s.and t = .true ↔ s = .true ∧ t = .true := by
  cases s <;> cases t <;> decide

theorem ofBool_or_not_eq_true_iff {absent : Bool} {t : Truth}
    (null : absent = .true → t ≠ .true) (known : absent = .false → t ≠ .unknown) :
    (ofBool absent).or t.not = .true ↔ t ≠ .true := by
  cases absent with
  | true => simpa using null rfl
  | false => simpa using not_eq_true_iff (known rfl)

theorem or_ne_unknown {s t : Truth} (left : s ≠ .unknown) (right : t ≠ .unknown) :
    s.or t ≠ .unknown := by
  cases s <;> cases t <;> simp_all [or]

end Truth

def ColumnValue.isNull : ColumnValue → Bool
  | .null => true
  | _ => false

def Json.isObject : Json → Bool
  | .object _ => true
  | _ => false

def Json.typeName : Json → String
  | .null => "null"
  | .bool true => "true"
  | .bool false => "false"
  | .number (.integer _ _) => "integer"
  | .number (.float _ _) => "real"
  | .string _ => "text"
  | .array _ => "array"
  | .object _ => "object"

namespace Sql

/-- What a store makes of documents and of values that are not null. -/
structure Primitives where
  member? : Json → String → Option Json
  /-- A JSON value other than null, as the JSON functions return it. -/
  plain : Json → ColumnValue
  compares : Comparison → ColumnValue → BindValue → Bool
  /-- A text matches a pattern in which the backslash is the escape character. -/
  resembles : ColumnValue → String → Bool

structure Record where
  value : String → ColumnValue
  json? : String → Option Json

namespace Primitives

variable (p : Primitives)

/-- Null for a path that leads nowhere, and for a JSON null. -/
def extracted : Option Json → ColumnValue
  | none | some .null => .null
  | some j => p.plain j

/-- Null only for a path that leads nowhere. -/
def typeOf : Option Json → ColumnValue
  | none => .null
  | some j => .text j.typeName

def compared (comparison : Comparison) (v : ColumnValue) (b : BindValue) : Truth :=
  if v.isNull then .unknown else .ofBool (p.compares comparison v b)

def among (v : ColumnValue) : List BindValue → Truth
  | [] => .false
  | b :: rest => (p.compared .equal v b).or (among v rest)

def like (v : ColumnValue) (pattern : String) : Truth :=
  if v.isNull then .unknown else .ofBool (p.resembles v pattern)

end Primitives

namespace Record

def elements? (r : Record) (column : String) : Option (List Json) :=
  match r.json? column with
  | some (.array items) => some items
  | _ => none

/-- The row joined with one of its elements, which is read as JSON where it is an object. -/
def withElement (r : Record) (p : Primitives) (item : Json) : Record where
  value name := if name = "nested_item.value" then p.extracted (some item) else r.value name
  json? name :=
    if name = "nested_item.value" then (if item.isObject then some item else none)
    else r.json? name

end Record

/-- Nothing where what is read as JSON is none, which makes the statement fail. -/
def Term.value? (p : Primitives) (r : Record) : Term → Option ColumnValue
  | .column name => some (r.value name)
  | .extract document path => (r.json? document).map fun j => p.extracted (p.member? j path)
  | .type document path => (r.json? document).map fun j => Primitives.typeOf (p.member? j path)

def anyTrue? (condition : Json → Option Truth) : List Json → Option Bool
  | [] => some false
  | item :: rest =>
    match condition item, anyTrue? condition rest with
    | some t, some found => some (t = .true || found)
    | _, _ => none

def Expression.truth? (p : Primitives) (r : Record) : Expression → Option Truth
  | .isNull x => (x.value? p r).map fun v => .ofBool v.isNull
  | .isNotNull x => (x.value? p r).map fun v => .ofBool !v.isNull
  | .compare x comparison value => (x.value? p r).map (p.compared comparison · value)
  | .isIn x values => (x.value? p r).map (p.among · values)
  | .notIn x values => (x.value? p r).map fun v => (p.among v values).not
  | .like x pattern => (x.value? p r).map (p.like · pattern)
  | .notLike x pattern => (x.value? p r).map fun v => (p.like v pattern).not
  | .either left right =>
    match left.truth? p r, right.truth? p r with
    | some s, some t => some (s.or t)
    | _, _ => none
  | .someElement column inner =>
    (r.elements? column).bind fun items =>
      (anyTrue? (fun item => inner.truth? p (r.withElement p item)) items).map .ofBool
  | .negation inner => (inner.truth? p r).map .not
  | .falsity => some .false

def Predicate.truth? (q : Predicate) (p : Primitives) (r : Record) : Option Truth :=
  q.expression.truth? p r

def conjunction? (p : Primitives) (r : Record) : List Predicate → Option Truth
  | [] => some .true
  | q :: rest =>
    match q.truth? p r, conjunction? p r rest with
    | some s, some t => some (s.and t)
    | _, _ => none

end Sql

end TraceQuery
