import TraceQuery.Span.Columns
import TraceQuery.Text.Utf8
import TraceQuery.Wire.Span

/-!
A span from the row that a search returns for it. Each field comes from one column; of several
columns that do not fit, the one that is read first is reported.
-/

set_option autoImplicit false
namespace TraceQuery

namespace SpanColumn

def spanId : Nat := 0
def traceId : Nat := 1
def traceState : Nat := 2
def parentSpanId : Nat := 3
def name : Nat := 4
def kind : Nat := 5
def startTime : Nat := 6
def endTime : Nat := 7
def droppedAttributes : Nat := 8
def statusMessage : Nat := 9
def statusCode : Nat := 10
def droppedEvents : Nat := 11
def droppedLinks : Nat := 12
def duration : Nat := 13
def ingestionTime : Nat := 14
def attributes : Nat := 15
def scopeName : Nat := 16
def scopeVersion : Nat := 17
def scopeDroppedAttributes : Nat := 18
def scopeAttributes : Nat := 19
def resourceDroppedAttributes : Nat := 20
def resourceAttributes : Nat := 21
def events : Nat := 22
def links : Nat := 23

end SpanColumn

namespace Row

open Json (Decoder Tree)

/-- The JSON in a text or in bytes; null and the empty text stand for what is empty. -/
def json {α : Type} (r : Row) (index : Nat) (empty : α) (d : Decoder α) : Except RowError α := do
  match ← r.get index with
  | .null => .ok empty
  | .text s => if s = "" then .ok empty else orInvalid (d.read? s)
  | .blob bytes => orInvalid ((Tree.ofScalars? (Utf8.scalars bytes)).bind d.decode?)
  | v => mismatch index "TEXT" v
where
  orInvalid : Option α → Except RowError α
    | some a => .ok a
    | none => .error (.invalidJson index)

/-- A duration that was not stored is the time from start to end, and zero if that is negative. -/
def duration (r : Row) (startTime endTime : UInt64) : Except RowError UInt64 := do
  match ← r.int64? SpanColumn.duration with
  | some n => fitting Word.uint64? SpanColumn.duration n
  | none => .ok (if startTime ≤ endTime then endTime - startTime else 0)

end Row

def Span.ofRow (r : Row) : Except RowError Span := do
  r.expectColumns spanColumns.length
  let startTimeUnixNano ← r.uint64 SpanColumn.startTime
  let endTimeUnixNano ← r.uint64 SpanColumn.endTime
  let durationNano ← r.duration startTimeUnixNano endTimeUnixNano
  let spanId ← r.text SpanColumn.spanId
  let traceId ← r.text SpanColumn.traceId
  let traceState ← r.text? SpanColumn.traceState
  let parentSpanId ← r.text? SpanColumn.parentSpanId
  let name ← r.text SpanColumn.name
  let kind ← r.int32 SpanColumn.kind
  let statusCode ← r.int32 SpanColumn.statusCode
  let statusMessage ← r.text? SpanColumn.statusMessage
  let ingestionTimeUnixNano ← r.uint64 SpanColumn.ingestionTime
  let attributes ← r.json SpanColumn.attributes [] .members
  let droppedAttributesCount ← r.count SpanColumn.droppedAttributes
  let events ← r.json SpanColumn.events [] (.list SpanEvent.decoder)
  let droppedEventsCount ← r.count SpanColumn.droppedEvents
  let links ← r.json SpanColumn.links [] (.list SpanLink.decoder)
  let droppedLinksCount ← r.count SpanColumn.droppedLinks
  let scopeName ← r.text? SpanColumn.scopeName
  let scopeVersion ← r.text? SpanColumn.scopeVersion
  let scopeAttributes ← r.json SpanColumn.scopeAttributes [] .members
  let scopeDropped ← r.count SpanColumn.scopeDroppedAttributes
  let resourceAttributes ← r.json SpanColumn.resourceAttributes [] .members
  let resourceDropped ← r.count SpanColumn.resourceDroppedAttributes
  return {
    spanId, traceId, traceState, parentSpanId, name, kind
    status := { code := statusCode, message := statusMessage }
    startTimeUnixNano, endTimeUnixNano, durationNano, ingestionTimeUnixNano, attributes
    droppedAttributesCount, events, droppedEventsCount, links, droppedLinksCount
    scope := {
      name := scopeName
      version := scopeVersion
      attributes := scopeAttributes
      droppedAttributesCount := scopeDropped }
    resource := { attributes := resourceAttributes, droppedAttributesCount := resourceDropped } }

end TraceQuery
