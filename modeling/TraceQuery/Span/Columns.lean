/-! The columns a search selects, in the order in which a row holds them. -/

set_option autoImplicit false
namespace TraceQuery

def spanColumns : List String :=
  [ "spans.span_id"
  , "spans.trace_id"
  , "spans.trace_state"
  , "spans.parent_span_id"
  , "spans.name"
  , "spans.kind"
  , "spans.start_time_unix_nano"
  , "spans.end_time_unix_nano"
  , "spans.dropped_attributes_count"
  , "spans.status_message"
  , "spans.status_code"
  , "spans.dropped_events_count"
  , "spans.dropped_links_count"
  , "spans.duration_nano"
  , "spans.ingestion_time_unix_nano"
  , "spans.span_attributes"
  , "spans.scope_name"
  , "spans.scope_version"
  , "spans.scope_dropped_attributes_count"
  , "spans.scope_attributes"
  , "spans.resource_dropped_attributes_count"
  , "spans.resource_attributes"
  , "spans.events"
  , "spans.links" ]

end TraceQuery
