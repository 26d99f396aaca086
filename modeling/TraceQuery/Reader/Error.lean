import TraceQuery.Query.Error
import TraceQuery.Span.Cursor

/-! Why a call of the reader fails. -/

set_option autoImplicit false
namespace TraceQuery

inductive QueryStage
  | search
  | listTags
  | tagValues
  deriving DecidableEq, Repr

def QueryStage.name : QueryStage → String
  | .search => "search"
  | .listTags => "list tags"
  | .tagValues => "tag values"

inductive CancelReason
  | requested
  | deadlineExceeded
  deriving DecidableEq, Repr

def CancelReason.message : CancelReason → String
  | .requested => "cancelled by caller"
  | .deadlineExceeded => "deadline exceeded"

inductive QueryError
  | build (error : BuildError)
  | execution (stage : QueryStage) (cause : String)
  | invalidCursor (token : PageToken)
  | cancelled (stage : QueryStage) (reason : CancelReason)
  | notImplemented (operation : String)
  deriving DecidableEq, Repr

namespace QueryError

def message : QueryError → String
  | .build error => s!"Invalid query: {error.message}"
  | .execution stage cause => s!"Query execution failed during {stage.name}: {cause}"
  | .invalidCursor token => s!"Invalid continuation token: {token.invalidMessage}"
  | .cancelled stage reason => s!"Query {reason.message} during {stage.name}"
  | .notImplemented operation => s!"Not implemented: {operation}"

def cause? : QueryError → Option String
  | .build error => some error.message
  | .execution _ cause => some cause
  | .invalidCursor token => some token.invalidMessage
  | .cancelled _ _ | .notImplemented _ => none

/-- The caller can mend the request. -/
def isClientError : QueryError → Bool
  | .build _ | .invalidCursor _ => true
  | .execution _ _ | .cancelled _ _ | .notImplemented _ => false

def isCancelled : QueryError → Bool
  | .cancelled _ _ => true
  | .build _ | .invalidCursor _ | .execution _ _ | .notImplemented _ => false

end QueryError

end TraceQuery
