import TraceQuery.Tag.Basic
import TraceQuery.Tag.Values
import TraceQuery.Wire.Filter

/-! The JSON forms of tags, of their values and of their statistics. -/

set_option autoImplicit false
namespace TraceQuery

open Json (Decoder)
open Json.Decoder (record)

namespace NameMap

variable {α : Type}

def membersToJson (toJson : α → Json) (members : List (String × α)) : Json :=
  .object (members.map fun e => (e.1, toJson e.2))

def toJson (toJson : α → Json) (m : NameMap α) : Json :=
  membersToJson toJson m.entries

/-- The members of an object by name; a later value of a name takes the earlier one's place. -/
def ofMembers? (d : Decoder α) (depth : Nat) (done : NameMap α) :
    List (List Json.Piece × Json.Tree) → Option (NameMap α)
  | [] => some done
  | (key, t) :: rest =>
    match Json.Piece.text? key, d depth t with
    | some name, some a => ofMembers? d depth (done.insert name a) rest
    | _, _ => none

def decoder (d : Decoder α) : Decoder (NameMap α)
  | depth + 1, .object members => ofMembers? d depth .empty members
  | _, _ => none

end NameMap

namespace TagInfo

def toJson (t : TagInfo) : Json :=
  .object [("name", .string t.name), ("type", .string t.type.name)]

def decoder : Decoder TagInfo :=
  record ["name", "type"] fun f => do
    let name ← f.required "name" .string
    let type ← f.required "type" (.oneOf TagType.ofName?)
    return { name, type }

end TagInfo

namespace TagValue

def toJson : TagValue → Json
  | .integer n => .ofInt64 n
  | .real x => .ofFloat x
  | .text s => .string s

def decoder : Decoder TagValue := fun depth t =>
  match Scalar.decoder depth t with
  | some (.integer n) => some (.integer n)
  | some (.float x) => some (.real x)
  | some (.text s) => some (.text s)
  | _ => none

end TagValue

namespace TagValueInfo

def toJson (v : TagValueInfo) : Json :=
  .object [("value", v.value.toJson), ("count", .ofUInt64 v.count)]

def decoder : Decoder TagValueInfo :=
  record ["value", "count"] fun f => do
    let value ← f.required "value" TagValue.decoder
    let count ← f.required "count" .uint64
    return { value, count }

end TagValueInfo

namespace TagValues

def toJson (v : TagValues) : Json :=
  .object [("values", .array (v.values.map TagValueInfo.toJson))]

def decoder : Decoder TagValues :=
  record ["values"] fun f => do
    let values ← f.required "values" (.list TagValueInfo.decoder)
    return { values }

end TagValues

def TagInfo.listToJson (tags : List TagInfo) : Json :=
  .object [("tags", .array (tags.map TagInfo.toJson))]

def TagValues.mapToJson (values : NameMap TagValues) : Json :=
  values.toJson TagValues.toJson

namespace TagStatistics

def toJson (s : TagStatistics) : Json :=
  .object [("statistics", s.statistics.toJson .ofFloat)]

def decoder : Decoder TagStatistics :=
  record ["statistics"] fun f => do
    let statistics ← f.required "statistics" (NameMap.decoder .float)
    return { statistics }

end TagStatistics

end TraceQuery
