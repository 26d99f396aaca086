import TraceQuery.NameMap

/-! Tags of spans: their types, the static ones with their columns, and the attribute sources. -/

set_option autoImplicit false
namespace TraceQuery

inductive TagType
  | string
  | number
  | boolean
  deriving DecidableEq, Repr

namespace TagType

def name : TagType → String
  | .string => "string"
  | .number => "number"
  | .boolean => "boolean"

def ofName? : String → Option TagType
  | "string" => some .string
  | "number" => some .number
  | "boolean" => some .boolean
  | _ => none

end TagType

structure TagInfo where
  name : String
  type : TagType
  deriving DecidableEq

inductive AttributeSource
  | span
  | scope
  | resource
  | event
  | link
  deriving DecidableEq, Repr

namespace AttributeSource

def all : List AttributeSource := [.span, .scope, .resource, .event, .link]

def key : AttributeSource → String
  | .span => "span"
  | .scope => "scope"
  | .resource => "resource"
  | .event => "event"
  | .link => "link"

def ofKey? (key : String) : Option AttributeSource :=
  all.find? (·.key == key)

def column : AttributeSource → String
  | .span => "spans.span_attributes"
  | .scope => "spans.scope_attributes"
  | .resource => "spans.resource_attributes"
  | .event => "spans.events"
  | .link => "spans.links"

/-- The column holds an array of objects, each with attributes of its own. -/
def isNested : AttributeSource → Bool
  | .event | .link => true
  | .span | .scope | .resource => false

/-- The JSON path of an attribute, from the object that holds it. -/
def path (source : AttributeSource) (field : String) : String :=
  if source.isNested then "$.attributes.\"" ++ field ++ "\"" else "$.\"" ++ field ++ "\""

end AttributeSource

structure StaticTag where
  type : TagType
  column : String
  deriving DecidableEq

abbrev Registry := NameMap StaticTag

namespace Registry

def standardTags : List (String × StaticTag) :=
  [ ("span.spanId", ⟨.string, "spans.span_id"⟩)
  , ("span.traceId", ⟨.string, "spans.trace_id"⟩)
  , ("span.traceState", ⟨.string, "spans.trace_state"⟩)
  , ("span.parentSpanId", ⟨.string, "spans.parent_span_id"⟩)
  , ("span.name", ⟨.string, "spans.name"⟩)
  , ("span.kind", ⟨.number, "spans.kind"⟩)
  , ("span.startTimeUnixNano", ⟨.number, "spans.start_time_unix_nano"⟩)
  , ("span.endTimeUnixNano", ⟨.number, "spans.end_time_unix_nano"⟩)
  , ("span.droppedAttributesCount", ⟨.number, "spans.dropped_attributes_count"⟩)
  , ("span.droppedEventsCount", ⟨.number, "spans.dropped_events_count"⟩)
  , ("span.droppedLinksCount", ⟨.number, "spans.dropped_links_count"⟩)
  , ("span.status.code", ⟨.number, "spans.status_code"⟩)
  , ("span.status.message", ⟨.string, "spans.status_message"⟩)
  , ("scope.name", ⟨.string, "spans.scope_name"⟩)
  , ("scope.version", ⟨.string, "spans.scope_version"⟩)
  , ("scope.droppedAttributesCount", ⟨.number, "spans.scope_dropped_attributes_count"⟩)
  , ("resource.droppedAttributesCount", ⟨.number, "spans.resource_dropped_attributes_count"⟩)
  , ("externalFields.durationNano", ⟨.number, "spans.duration_nano"⟩)
  , ("externalFields.ingestionTimeUnixNano", ⟨.number, "spans.ingestion_time_unix_nano"⟩) ]

def standard : Registry :=
  standardTags.foldl (fun r (name, tag) => r.insert name tag) .empty

end Registry

end TraceQuery
