import TraceQuery.Query.Discovery
import TraceQuery.Query.Search
import TraceQuery.Query.TagValues
import TraceQuery.Reader.Session
import TraceQuery.Span.OfRow
import TraceQuery.Tag.Values

/-!
The reader of recorded spans: search, the catalog of tags, and the values of tags. A row that
cannot be read is left out and reported; a query that cannot be built or run fails the call.
-/

set_option autoImplicit false
namespace TraceQuery

structure QuerySettings where
  defaultPageSize : UInt32
  maxPageSize : UInt32
  /-- Zero for no timeout. -/
  timeoutSecs : UInt64
  cursorPolicy : CursorPolicy
  maxTagValues : Option UInt32
  deriving DecidableEq, Repr

namespace QuerySettings

def standard : QuerySettings :=
  ⟨PageLimits.standard.defaultSize, PageLimits.standard.maxSize, 30, .standard, none⟩

def limits (q : QuerySettings) : PageLimits :=
  ⟨q.defaultPageSize, q.maxPageSize⟩

/-- In nanoseconds. -/
def timeout (q : QuerySettings) : Option Nat :=
  if q.timeoutSecs = 0 then none else some (q.timeoutSecs.toNat * Context.nanosPerSecond)

end QuerySettings

structure SpanReader where
  registry : Registry
  settings : QuerySettings

def TagValueInfo.ofRow (r : Row) : Except RowError (Option TagValueInfo) := do
  r.expectColumns 2
  let counted (value : TagValue) : Except RowError (Option TagValueInfo) := do
    return some { value, count := ← r.uint64 1 }
  match ← r.get 0 with
  -- a null value is no value
  | .null => return none
  | .integer n => counted (.integer n)
  | .real x => counted (.real x)
  | .text s => counted (.text s)
  | .blob bytes => Row.mismatch 0 "INTEGER, REAL or TEXT" (.blob bytes)

namespace SpanReader

variable {σ : Type}

def failures {α : Type} (ofRow : Row → Except RowError α) (rows : List Row) :
    List (Nat × RowError) :=
  rows.zipIdx.filterMap fun (row, index) =>
    match ofRow row with
    | .ok _ => none
    | .error e => some (index, e)

def successes {α : Type} (ofRow : Row → Except RowError α) (rows : List Row) : List α :=
  rows.filterMap fun row => (ofRow row).toOption

/-- The caller's deadline, or the configured timeout from now if that ends earlier. -/
def scoped? (r : SpanReader) (s : Session σ) : Option (Option Nat) :=
  (s.context.withTimeout? s.now r.settings.timeout).map (·.deadline)

def page (r : SpanReader) (plan : SearchPlan) (rows : List Row) : SpanPage :=
  let spans := successes Span.ofRow rows
  { spans
    nextToken := PageToken.next? spans plan.sort rows.length plan.pageSize r.settings.cursorPolicy
    skipped := (failures Span.ofRow rows).map fun (index, error) => ⟨index, error⟩ }

def boundary (request : SearchRequest) : Except QueryError (Option Int64) :=
  match request.nextToken with
  | none => .ok none
  | some token =>
    match token.boundary? with
    | some b => .ok (some b)
    | none => .error (.invalidCursor token)

def plan (r : SpanReader) (request : SearchRequest) : Except QueryError SearchPlan :=
  match boundary request with
  | .error e => .error e
  | .ok b =>
    match request.plan b r.registry r.settings.limits with
    | .error e => .error (.build e)
    | .ok plan => .ok plan

def search (r : SpanReader) (executor : Executor σ) (request : SearchRequest) (s : Session σ) :
    Outcome SpanPage × Session σ :=
  match r.plan request with
  | .error e => (.error e, s)
  | .ok plan =>
    match r.scoped? s with
    | none => (.noDeadline, s)
    | some deadline =>
      Session.andThen (s.fetch executor deadline .search plan.statement) fun rows s =>
        let page := r.page plan rows
        (.ok page, s.warn (page.skipped.map .skippedSpan))

def tags (r : SpanReader) (executor : Executor σ) (s : Session σ) :
    Outcome (List TagInfo) × Session σ :=
  match r.scoped? s with
  | none => (.noDeadline, s)
  | some deadline =>
    Session.andThen (s.fetch executor deadline .listTags Discovery.statement) fun rows s =>
      let discovered := (successes DiscoveredTag.ofRow rows).filterMap id
      let skipped := (failures DiscoveredTag.ofRow rows).map fun (index, e) =>
        Warning.skippedTag index e
      let collisions := (Catalog.collisions r.registry discovered).map Warning.typeCollision
      (.ok (Catalog.merge r.registry discovered), s.warn (skipped ++ collisions))

/-- The values that the rows hold, the most frequent first; ties keep the order of the rows. -/
def ranked (rows : List Row) : TagValues :=
  ⟨((successes TagValueInfo.ofRow rows).filterMap id).mergeSort fun a b => b.count ≤ a.count⟩

def valuesUnder (r : SpanReader) (executor : Executor σ) (deadline : Option Nat)
    (request : TagValuesRequest) (tag : String) (s : Session σ) : Outcome TagValues × Session σ :=
  match request.plan tag r.registry r.settings.maxTagValues with
  | .error e => (.error (.build e), s)
  | .ok plan =>
    Session.andThen (s.fetch executor deadline .tagValues plan.statement) fun rows s =>
      (.ok (ranked rows), s.warn ((failures TagValueInfo.ofRow rows).map fun (index, e) =>
        Warning.skippedTagValue tag index e))

def tagValues (r : SpanReader) (executor : Executor σ) (request : TagValuesRequest)
    (tag : String) (s : Session σ) : Outcome TagValues × Session σ :=
  match r.scoped? s with
  | none => (.noDeadline, s)
  | some deadline => r.valuesUnder executor deadline request tag s

/-- One tag after another. A tag whose query fails is left out; a cancelled one ends the batch. -/
def batchUnder (r : SpanReader) (executor : Executor σ) (deadline : Option Nat)
    (request : TagValuesRequest) :
    List String → NameMap TagValues → Session σ → Outcome (NameMap TagValues) × Session σ
  | [], done, s => (.ok done, s)
  | tag :: rest, done, s =>
    match r.valuesUnder executor deadline request tag s with
    | (.returned (.ok values), s) =>
      batchUnder r executor deadline request rest (done.insert tag values) s
    | (.returned (.error e), s) =>
      if e.isCancelled then (.error e, s)
      else batchUnder r executor deadline request rest done (s.warn [.omittedTag tag e])
    | (.unending, s) => (.unending, s)
    | (.noDeadline, s) => (.noDeadline, s)

def tagsValues (r : SpanReader) (executor : Executor σ) (request : TagValuesRequest)
    (tags : List String) (s : Session σ) : Outcome (NameMap TagValues) × Session σ :=
  match r.scoped? s with
  | none => (.noDeadline, s)
  | some deadline => r.batchUnder executor deadline request tags .empty s

def systemId (s : Session σ) : Outcome String × Session σ :=
  (.error (.notImplemented "get_system_id"), s)

def setSystemId (_value : String) (s : Session σ) : Outcome Unit × Session σ :=
  (.error (.notImplemented "set_system_id"), s)

def tagStatistics (_request : TagStatisticsRequest) (s : Session σ) :
    Outcome TagStatistics × Session σ :=
  (.error (.notImplemented "get_tags_statistics"), s)

end SpanReader

end TraceQuery
