import TraceQuery.Query.Request
import TraceQuery.Wire.Filter

/-! The JSON forms of requests. Every field of a request may be left out. -/

set_option autoImplicit false
namespace TraceQuery

open Json (Decoder)
open Json.Decoder (record)

def Json.ofOption {α : Type} (toJson : α → Json) : Option α → Json
  | none => .null
  | some a => toJson a

namespace Timeframe

def toJson (t : Timeframe) : Json :=
  .object
    [ ("start_time_unix_nano", .ofOption .ofUInt64 t.start)
    , ("end_time_unix_nano", .ofOption .ofUInt64 t.stop) ]

def decoder : Decoder Timeframe :=
  record ["start_time_unix_nano", "end_time_unix_nano"] fun f => do
    let start ← f.defaulted "start_time_unix_nano" (.option .uint64) none
    let stop ← f.defaulted "end_time_unix_nano" (.option .uint64) none
    return { start, stop }

end Timeframe

def SortDirection.decoder : Decoder SortDirection :=
  .oneOf SortDirection.ofName?

namespace SortSpec

def toJson (s : SortSpec) : Json :=
  .object [("field", .string s.field), ("direction", .string s.direction.name)]

def decoder : Decoder SortSpec :=
  record ["field", "direction"] fun f => do
    let field ← f.required "field" .string
    let direction ← f.defaulted "direction" SortDirection.decoder .standard
    return { field, direction }

end SortSpec

namespace PageToken

def toJson (t : PageToken) : Json := .string t.text

def decoder : Decoder PageToken
  | depth, t => (Decoder.string depth t).map PageToken.mk

end PageToken

namespace SearchRequest

def toJson (r : SearchRequest) : Json :=
  .object
    [ ("filters", .array (r.filters.map SearchFilter.toJson))
    , ("timeframe", .ofOption Timeframe.toJson r.timeframe)
    , ("sort", .ofOption SortSpec.toJson r.sort)
    , ("next_token", .ofOption PageToken.toJson r.nextToken)
    , ("limit", .ofOption .ofUInt32 r.limit) ]

def decoder : Decoder SearchRequest :=
  record ["filters", "timeframe", "sort", "next_token", "limit"] fun f => do
    let filters ← f.defaulted "filters" (.list SearchFilter.decoder) []
    let timeframe ← f.defaulted "timeframe" (.option Timeframe.decoder) none
    let sort ← f.defaulted "sort" (.option SortSpec.decoder) none
    let nextToken ← f.defaulted "next_token" (.option PageToken.decoder) none
    let limit ← f.defaulted "limit" (.option .uint32) none
    return { filters, timeframe, sort, nextToken, limit }

end SearchRequest

namespace TagValuesRequest

def toJson (r : TagValuesRequest) : Json :=
  .object
    [ ("filters", .array (r.filters.map SearchFilter.toJson))
    , ("timeframe", .ofOption Timeframe.toJson r.timeframe) ]

def decoder : Decoder TagValuesRequest :=
  record ["filters", "timeframe"] fun f => do
    let filters ← f.defaulted "filters" (.list SearchFilter.decoder) []
    let timeframe ← f.defaulted "timeframe" (.option Timeframe.decoder) none
    return { filters, timeframe }

end TagValuesRequest

namespace TagStatisticsRequest

def toJson (r : TagStatisticsRequest) : Json :=
  .object
    [ ("filters", .array (r.filters.map SearchFilter.toJson))
    , ("timeframe", .ofOption Timeframe.toJson r.timeframe)
    , ("desired_statistics", .array (r.desiredStatistics.map .string)) ]

def decoder : Decoder TagStatisticsRequest :=
  record ["filters", "timeframe", "desired_statistics"] fun f => do
    let filters ← f.defaulted "filters" (.list SearchFilter.decoder) []
    let timeframe ← f.defaulted "timeframe" (.option Timeframe.decoder) none
    let desiredStatistics ← f.defaulted "desired_statistics" (.list .string) []
    return { filters, timeframe, desiredStatistics }

end TagStatisticsRequest

end TraceQuery
