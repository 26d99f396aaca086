import TraceQuery.Query.Request
import TraceQuery.Row
import TraceQuery.Span.Basic

/-! A page of spans, as a search returns it. -/

set_option autoImplicit false
namespace TraceQuery

structure SkippedRow where
  index : Nat
  error : RowError
  deriving DecidableEq

structure SpanPage where
  spans : List Span
  nextToken : Option PageToken
  /-- Known to the caller only, and never written out. -/
  skipped : List SkippedRow

end TraceQuery
