import TraceQuery.Word

/-!
Rows of a query's result. A column read as a type it does not have is an error of that column.
-/

set_option autoImplicit false
namespace TraceQuery

inductive ColumnValue
  | null
  | integer (n : Int64)
  | real (x : Float)
  | text (s : String)
  | blob (bytes : ByteArray)

def ColumnValue.storageClass : ColumnValue → String
  | .null => "NULL"
  | .integer _ => "INTEGER"
  | .real _ => "REAL"
  | .text _ => "TEXT"
  | .blob _ => "BLOB"

inductive RowError
  | columnCount (expected actual : Nat)
  | typeMismatch (index : Nat) (expected found : String)
  | outOfRange (index : Nat) (value : Int64)
  | invalidJson (index : Nat)
  | unknownTagType (index : Nat) (value : String)
  deriving DecidableEq, Repr

def RowError.message : RowError → String
  | .columnCount expected actual => s!"expected {expected} columns, row has {actual}"
  | .typeMismatch index expected found => s!"column {index}: expected {expected}, found {found}"
  | .outOfRange index value => s!"column {index}: value {value.toInt} is out of range"
  | .invalidJson index => s!"column {index}: invalid JSON"
  | .unknownTagType index value => s!"column {index}: unknown tag type '{value}'"

structure Row where
  columns : List ColumnValue

namespace Row

def expectColumns (r : Row) (expected : Nat) : Except RowError Unit :=
  if r.columns.length = expected then .ok ()
  else .error (.columnCount expected r.columns.length)

def get (r : Row) (index : Nat) : Except RowError ColumnValue :=
  match r.columns[index]? with
  | some v => .ok v
  | none => .error (.columnCount (index + 1) r.columns.length)

def mismatch {α : Type} (index : Nat) (expected : String) (found : ColumnValue) :
    Except RowError α :=
  .error (.typeMismatch index expected found.storageClass)

def int64 (r : Row) (index : Nat) : Except RowError Int64 := do
  match ← r.get index with
  | .integer n => .ok n
  | v => mismatch index "INTEGER" v

def int64? (r : Row) (index : Nat) : Except RowError (Option Int64) := do
  match ← r.get index with
  | .null => .ok none
  | .integer n => .ok (some n)
  | v => mismatch index "INTEGER" v

/-- A stored integer as a narrower type, which has to hold it. -/
def fitting {α : Type} (word? : Int → Option α) (index : Nat) (n : Int64) : Except RowError α :=
  match word? n.toInt with
  | some a => .ok a
  | none => .error (.outOfRange index n)

def uint64 (r : Row) (index : Nat) : Except RowError UInt64 := do
  fitting Word.uint64? index (← r.int64 index)

/-- A counter; null counts as zero. -/
def count (r : Row) (index : Nat) : Except RowError UInt32 := do
  fitting Word.uint32? index ((← r.int64? index).getD 0)

/-- A small integer; null reads as zero. -/
def int32 (r : Row) (index : Nat) : Except RowError Int32 := do
  fitting Word.int32? index ((← r.int64? index).getD 0)

def text (r : Row) (index : Nat) : Except RowError String := do
  match ← r.get index with
  | .text s => .ok s
  | v => mismatch index "TEXT" v

def text? (r : Row) (index : Nat) : Except RowError (Option String) := do
  match ← r.get index with
  | .null => .ok none
  | .text s => .ok (some s)
  | v => mismatch index "TEXT" v

end Row

end TraceQuery
