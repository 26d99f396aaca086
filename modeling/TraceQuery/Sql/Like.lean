/-! `LIKE` patterns that match a text wherever it stands. The escape character is a backslash. -/

set_option autoImplicit false
namespace TraceQuery.Sql.Like

def escapeEach (c : Char) (text : List Char) : List Char :=
  text.flatMap fun d => if d = c then ['\\', d] else [d]

/-- The backslash is escaped first, as the other two bring backslashes of their own. -/
def escape (text : List Char) : List Char :=
  escapeEach '_' (escapeEach '%' (escapeEach '\\' text))

def containing (text : String) : String :=
  String.ofList ('%' :: (escape text.toList ++ ['%']))

end TraceQuery.Sql.Like
