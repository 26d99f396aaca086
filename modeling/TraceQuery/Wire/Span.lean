import TraceQuery.Span.Page
import TraceQuery.Wire.Request

/-! The JSON forms of spans and of pages of spans. -/

set_option autoImplicit false
namespace TraceQuery

open Json (Decoder)
open Json.Decoder (record)

def Attributes.toJson (a : Attributes) : Json := .object a

namespace SpanStatus

def toJson (s : SpanStatus) : Json :=
  .object [("code", .ofInt32 s.code), ("message", .ofOption .string s.message)]

def decoder : Decoder SpanStatus :=
  record ["code", "message"] fun f => do
    let code ← f.required "code" .int32
    let message ← f.nullable "message" .string
    return { code, message }

end SpanStatus

namespace SpanEvent

def toJson (e : SpanEvent) : Json :=
  .object
    [ ("time_unix_nano", .ofUInt64 e.timeUnixNano)
    , ("name", .string e.name)
    , ("attributes", e.attributes.toJson)
    , ("dropped_attributes_count", .ofUInt32 e.droppedAttributesCount) ]

def decoder : Decoder SpanEvent :=
  record ["time_unix_nano", "name", "attributes", "dropped_attributes_count"] fun f => do
    let timeUnixNano ← f.defaulted "time_unix_nano" .uint64 0
    let name ← f.defaulted "name" .string ""
    let attributes ← f.defaulted "attributes" .members []
    let droppedAttributesCount ← f.defaulted "dropped_attributes_count" .uint32 0
    return { timeUnixNano, name, attributes, droppedAttributesCount }

end SpanEvent

namespace SpanLink

def toJson (l : SpanLink) : Json :=
  .object
    [ ("trace_id", .string l.traceId)
    , ("span_id", .string l.spanId)
    , ("trace_state", .ofOption .string l.traceState)
    , ("attributes", l.attributes.toJson)
    , ("dropped_attributes_count", .ofUInt32 l.droppedAttributesCount) ]

def decoder : Decoder SpanLink :=
  let names := ["trace_id", "span_id", "trace_state", "attributes", "dropped_attributes_count"]
  record names fun f => do
    let traceId ← f.defaulted "trace_id" .string ""
    let spanId ← f.defaulted "span_id" .string ""
    let traceState ← f.defaulted "trace_state" (.option .string) none
    let attributes ← f.defaulted "attributes" .members []
    let droppedAttributesCount ← f.defaulted "dropped_attributes_count" .uint32 0
    return { traceId, spanId, traceState, attributes, droppedAttributesCount }

end SpanLink

namespace InstrumentationScope

def toJson (s : InstrumentationScope) : Json :=
  .object
    [ ("name", .ofOption .string s.name)
    , ("version", .ofOption .string s.version)
    , ("attributes", s.attributes.toJson)
    , ("dropped_attributes_count", .ofUInt32 s.droppedAttributesCount) ]

def decoder : Decoder InstrumentationScope :=
  record ["name", "version", "attributes", "dropped_attributes_count"] fun f => do
    let name ← f.nullable "name" .string
    let version ← f.nullable "version" .string
    let attributes ← f.required "attributes" .members
    let droppedAttributesCount ← f.required "dropped_attributes_count" .uint32
    return { name, version, attributes, droppedAttributesCount }

end InstrumentationScope

namespace Resource

def toJson (r : Resource) : Json :=
  .object
    [ ("attributes", r.attributes.toJson)
    , ("dropped_attributes_count", .ofUInt32 r.droppedAttributesCount) ]

def decoder : Decoder Resource :=
  record ["attributes", "dropped_attributes_count"] fun f => do
    let attributes ← f.required "attributes" .members
    let droppedAttributesCount ← f.required "dropped_attributes_count" .uint32
    return { attributes, droppedAttributesCount }

end Resource

namespace Span

def toJson (s : Span) : Json :=
  .object
    [ ("span_id", .string s.spanId)
    , ("trace_id", .string s.traceId)
    , ("trace_state", .ofOption .string s.traceState)
    , ("parent_span_id", .ofOption .string s.parentSpanId)
    , ("name", .string s.name)
    , ("kind", .ofInt32 s.kind)
    , ("status", s.status.toJson)
    , ("start_time_unix_nano", .ofUInt64 s.startTimeUnixNano)
    , ("end_time_unix_nano", .ofUInt64 s.endTimeUnixNano)
    , ("duration_nano", .ofUInt64 s.durationNano)
    , ("ingestion_time_unix_nano", .ofUInt64 s.ingestionTimeUnixNano)
    , ("attributes", s.attributes.toJson)
    , ("dropped_attributes_count", .ofUInt32 s.droppedAttributesCount)
    , ("events", .array (s.events.map SpanEvent.toJson))
    , ("dropped_events_count", .ofUInt32 s.droppedEventsCount)
    , ("links", .array (s.links.map SpanLink.toJson))
    , ("dropped_links_count", .ofUInt32 s.droppedLinksCount)
    , ("scope", s.scope.toJson)
    , ("resource", s.resource.toJson) ]

def fieldNames : List String :=
  [ "span_id", "trace_id", "trace_state", "parent_span_id", "name", "kind", "status"
  , "start_time_unix_nano", "end_time_unix_nano", "duration_nano", "ingestion_time_unix_nano"
  , "attributes", "dropped_attributes_count", "events", "dropped_events_count", "links"
  , "dropped_links_count", "scope", "resource" ]

def decoder : Decoder Span :=
  record fieldNames fun f => do
    let spanId ← f.required "span_id" .string
    let traceId ← f.required "trace_id" .string
    let traceState ← f.nullable "trace_state" .string
    let parentSpanId ← f.nullable "parent_span_id" .string
    let name ← f.required "name" .string
    let kind ← f.required "kind" .int32
    let status ← f.required "status" SpanStatus.decoder
    let startTimeUnixNano ← f.required "start_time_unix_nano" .uint64
    let endTimeUnixNano ← f.required "end_time_unix_nano" .uint64
    let durationNano ← f.required "duration_nano" .uint64
    let ingestionTimeUnixNano ← f.required "ingestion_time_unix_nano" .uint64
    let attributes ← f.required "attributes" .members
    let droppedAttributesCount ← f.required "dropped_attributes_count" .uint32
    let events ← f.required "events" (.list SpanEvent.decoder)
    let droppedEventsCount ← f.required "dropped_events_count" .uint32
    let links ← f.required "links" (.list SpanLink.decoder)
    let droppedLinksCount ← f.required "dropped_links_count" .uint32
    let scope ← f.required "scope" InstrumentationScope.decoder
    let resource ← f.required "resource" Resource.decoder
    return {
      spanId, traceId, traceState, parentSpanId, name, kind, status, startTimeUnixNano
      endTimeUnixNano, durationNano, ingestionTimeUnixNano, attributes, droppedAttributesCount
      events, droppedEventsCount, links, droppedLinksCount, scope, resource }

end Span

namespace SpanPage

def tokenToJson (token : PageToken) : Json :=
  .object [("next_token", token.toJson)]

def tokenDecoder : Decoder PageToken :=
  record ["next_token"] fun f => f.required "next_token" PageToken.decoder

/-- A last page is written without the field for what follows. -/
def toJson (p : SpanPage) : Json :=
  .object <|
    ("spans", .array (p.spans.map Span.toJson)) ::
      (p.nextToken.map fun token => ("metadata", tokenToJson token)).toList

def decoder : Decoder SpanPage :=
  record ["spans", "metadata"] fun f => do
    let spans ← f.required "spans" (.list Span.decoder)
    let nextToken ← f.defaulted "metadata" (.option tokenDecoder) none
    return { spans, nextToken, skipped := [] }

end SpanPage

end TraceQuery
