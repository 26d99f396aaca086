import TraceQuery.Query.Scope

/-! The statement that lists which attributes occur, by source, key and type. -/

set_option autoImplicit false
namespace TraceQuery.Discovery

open Sql (Statement joined)

def typeText : String :=
  "CASE attr.type WHEN 'integer' THEN 'number' WHEN 'real' THEN 'number' " ++
    "WHEN 'true' THEN 'boolean' WHEN 'false' THEN 'boolean' ELSE 'string' END"

/-- A column that does not hold JSON has no attributes. -/
def sourceText (source : AttributeSource) : String :=
  let valid := "CASE WHEN json_valid(" ++ source.column ++ ") THEN " ++ source.column ++ " END"
  if source.isNested then
    spansTable ++ ", json_each(" ++ valid ++
      ") AS item, json_each(item.value, '$.attributes') AS attr"
  else spansTable ++ ", json_each(" ++ valid ++ ") AS attr"

def selectText (source : AttributeSource) : String :=
  "SELECT DISTINCT '" ++ source.key ++ "' AS source, attr.key AS tag_key, " ++ typeText ++
    " AS tag_type FROM " ++ sourceText source ++ " WHERE attr.type <> 'null'"

def statement : Statement :=
  { sql := joined " UNION " (AttributeSource.all.map selectText) ++
      " ORDER BY source, tag_key, tag_type"
    params := [] }

end TraceQuery.Discovery
