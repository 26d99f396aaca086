import TraceQuery.Json.Value

/-! Recorded spans, with their events and links. -/

set_option autoImplicit false
namespace TraceQuery

/-- Values by key, in the order in which the keys were recorded. -/
abbrev Attributes := List (String × Json)

structure SpanStatus where
  code : Int32
  message : Option String

structure SpanEvent where
  timeUnixNano : UInt64
  name : String
  attributes : Attributes
  droppedAttributesCount : UInt32

structure SpanLink where
  traceId : String
  spanId : String
  traceState : Option String
  attributes : Attributes
  droppedAttributesCount : UInt32

structure InstrumentationScope where
  name : Option String
  version : Option String
  attributes : Attributes
  droppedAttributesCount : UInt32

structure Resource where
  attributes : Attributes
  droppedAttributesCount : UInt32

structure Span where
  spanId : String
  traceId : String
  traceState : Option String
  parentSpanId : Option String
  name : String
  kind : Int32
  status : SpanStatus
  startTimeUnixNano : UInt64
  endTimeUnixNano : UInt64
  durationNano : UInt64
  ingestionTimeUnixNano : UInt64
  attributes : Attributes
  droppedAttributesCount : UInt32
  events : List SpanEvent
  droppedEventsCount : UInt32
  links : List SpanLink
  droppedLinksCount : UInt32
  scope : InstrumentationScope
  resource : Resource

end TraceQuery
