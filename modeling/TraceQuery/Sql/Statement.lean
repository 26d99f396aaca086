/-! SQL statements with the values their placeholders take. -/

set_option autoImplicit false
namespace TraceQuery.Sql

inductive BindValue
  | integer (n : Int64)
  | real (x : Float)
  | text (s : String)
  deriving DecidableEq

/-- The parameters stand in the order of the question marks. -/
structure Statement where
  sql : String
  params : List BindValue
  deriving DecidableEq

def placeholders (sql : String) : Nat :=
  sql.toList.count '?'

def joined (separator : String) : List String → String
  | [] => ""
  | [s] => s
  | s :: rest => s ++ separator ++ joined separator rest

end TraceQuery.Sql
