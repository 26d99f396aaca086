import TraceQuery.Filter.Value

/-! What a caller asks for: a page of spans, the values of a tag, or statistics of tags. -/

set_option autoImplicit false
namespace TraceQuery

/-- Bounds in nanoseconds since the epoch, each inclusive. -/
structure Timeframe where
  start : Option UInt64
  stop : Option UInt64
  deriving DecidableEq, Repr

inductive SortField
  | startTime
  | endTime
  | duration
  | ingestionTime
  deriving DecidableEq, Repr

namespace SortField

def standard : SortField := .startTime

def name : SortField → String
  | .startTime => "span.startTimeUnixNano"
  | .endTime => "span.endTimeUnixNano"
  | .duration => "externalFields.durationNano"
  | .ingestionTime => "externalFields.ingestionTimeUnixNano"

def shortName : SortField → String
  | .startTime => "start_time"
  | .endTime => "end_time"
  | .duration => "duration"
  | .ingestionTime => "ingestion_time"

def all : List SortField := [.startTime, .endTime, .duration, .ingestionTime]

def ofName? (name : String) : Option SortField :=
  all.find? fun f => f.name == name || f.shortName == name

def column : SortField → String
  | .startTime => "spans.start_time_unix_nano"
  | .endTime => "spans.end_time_unix_nano"
  | .duration => "spans.duration_nano"
  | .ingestionTime => "spans.ingestion_time_unix_nano"

end SortField

inductive SortDirection
  | ascending
  | descending
  deriving DecidableEq, Repr

namespace SortDirection

def standard : SortDirection := .descending

def keyword : SortDirection → String
  | .ascending => "ASC"
  | .descending => "DESC"

def name : SortDirection → String
  | .ascending => "asc"
  | .descending => "desc"

def ofName? : String → Option SortDirection
  | "asc" => some .ascending
  | "desc" => some .descending
  | _ => none

end SortDirection

structure SortSpec where
  field : String
  direction : SortDirection
  deriving DecidableEq, Repr

/-- Where the next page begins; a caller returns it as it was given. -/
structure PageToken where
  text : String
  deriving DecidableEq, Repr

structure SearchRequest where
  filters : List SearchFilter
  timeframe : Option Timeframe
  sort : Option SortSpec
  nextToken : Option PageToken
  limit : Option UInt32
  deriving DecidableEq

def SearchRequest.standard : SearchRequest :=
  ⟨[], none, none, none, none⟩

structure TagValuesRequest where
  filters : List SearchFilter
  timeframe : Option Timeframe
  deriving DecidableEq

def TagValuesRequest.standard : TagValuesRequest :=
  ⟨[], none⟩

structure TagStatisticsRequest where
  filters : List SearchFilter
  timeframe : Option Timeframe
  desiredStatistics : List String
  deriving DecidableEq

def TagStatisticsRequest.standard : TagStatisticsRequest :=
  ⟨[], none, []⟩

end TraceQuery
