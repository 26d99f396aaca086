import TraceQuery.Filter.Value
import TraceQuery.Json.Decode

/-!
The JSON forms of filters. A value is told apart by its JSON kind alone: true and false are
booleans, a number is an integer where 64 signed bits hold it and a double elsewhere, and a
string is a text whatever it spells.
-/

set_option autoImplicit false
namespace TraceQuery

open Json (Decoder)
open Json.Decoder (record)

namespace Scalar

def toJson : Scalar → Json
  | .bool b => .bool b
  | .integer n => .ofInt64 n
  | .float x => .ofFloat x
  | .text s => .string s

def ofNumber : Json.Number → Scalar
  | .integer n _ =>
    match Word.int64? n with
    | some w => .integer w
    | none => .float (UInt64.ofNat n.toNat).toFloat
  | .float x _ => .float x

def decoder : Decoder Scalar
  | _, .bool b => some (.bool b)
  | _, .numeral n => n.value?.map ofNumber
  | _, .text pieces => (Json.Piece.text? pieces).map .text
  | _, _ => none

def display : Scalar → String
  | .bool true => "true"
  | .bool false => "false"
  | .integer n => toString n.toInt
  | .float x => String.ofList (Decimal.plain x)
  | .text s => s

end Scalar

namespace FilterValue

def toJson : FilterValue → Json
  | .list items => .array (items.map Scalar.toJson)
  | .scalar s => s.toJson

def decoder : Decoder FilterValue
  | depth, .array items => (Decoder.list Scalar.decoder depth (.array items)).map .list
  | depth, t => (Scalar.decoder depth t).map .scalar

end FilterValue

namespace SearchFilter

/-- A filter without a value is written without the field. -/
def toJson (f : SearchFilter) : Json :=
  .object <|
    [("key", .string f.key), ("operator", .string f.operator)] ++
      (f.value.map fun v => ("value", v.toJson)).toList

def decoder : Decoder SearchFilter :=
  record ["key", "operator", "value"] fun f => do
    let key ← f.required "key" .string
    let operator ← f.required "operator" .string
    let value ← f.defaulted "value" (.option FilterValue.decoder) none
    return { key, operator, value }

end SearchFilter

end TraceQuery
