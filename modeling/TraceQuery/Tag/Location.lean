import TraceQuery.Query.Error
import TraceQuery.Tag.Basic

/-!
Where the values of a tag are stored. A registered tag has its column; any other key names an
attribute, of the source it starts with or else of the span.
-/

set_option autoImplicit false
namespace TraceQuery

inductive TagLocation
  | column (name : String)
  | attribute (column path : String)
  /-- The path leads from each element of the array in the column. -/
  | element (column path : String)
  deriving DecidableEq, Repr

def AttributeSource.ofTag (key : String) : AttributeSource × String :=
  match key.toList.dropWhile (· != '.') with
  | [] => (.span, key)
  | _ :: field =>
    match ofKey? (String.ofList (key.toList.takeWhile (· != '.'))) with
    | some source => (source, String.ofList field)
    | none => (.span, key)

def AttributeSource.location (source : AttributeSource) (field : String) : TagLocation :=
  if source.isNested then .element source.column (source.path field)
  else .attribute source.column (source.path field)

def Registry.resolve (registry : Registry) (key : String) : Except BuildError TagLocation :=
  match registry.get? key with
  | some tag => .ok (.column tag.column)
  | none =>
    if key = "" then .error (.malformedKey key .empty)
    -- a quote would end the label of the path
    else if '"' ∈ key.toList then .error (.malformedKey key .doubleQuote)
    else
      let (source, field) := AttributeSource.ofTag key
      if field = "" then .error (.malformedKey key .noName) else .ok (source.location field)

end TraceQuery
