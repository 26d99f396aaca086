import TraceQuery.Json.Numeral
import TraceQuery.Text.Quoted

/-! What is wrong with a JSON text, and where. -/

set_option autoImplicit false
namespace TraceQuery.Json

inductive Found
  | null
  | bool (b : Bool)
  | number (n : Numeral)
  | string (s : String)
  | sequence
  | map
  deriving DecidableEq, Repr

def Found.description : Found → String
  | .null => "null"
  | .bool true => "boolean `true`"
  | .bool false => "boolean `false`"
  | .number n =>
    match n.value? with
    | some (.integer value _) => s!"integer `{value}`"
    | some (.float value _) => "floating point `" ++ String.ofList (Decimal.number value) ++ "`"
    | none => "number"
  | .string s => "string " ++ Text.quoted s
  | .sequence => "sequence"
  | .map => "map"

inductive Reason
  | endOfList
  | endOfObject
  | endOfString
  | endOfValue
  | noColon
  | noListComma
  | noObjectComma
  | noWord
  | noValue
  | noKey
  | badEscape
  | badNumber
  | outOfRange
  | control
  | loneSurrogate
  | endOfPair
  | tooDeep
  | trailingComma
  | trailingCharacters
  | wrongType (found : Found) (expected : String)
  | wrongValue (found : Found) (expected : String)
  | wrongLength (length : Nat) (expected : String)
  | duplicate (field : String)
  | unknownVariant (name : String) (known : String)
  deriving DecidableEq, Repr

def Reason.message : Reason → String
  | .endOfList => "EOF while parsing a list"
  | .endOfObject => "EOF while parsing an object"
  | .endOfString => "EOF while parsing a string"
  | .endOfValue => "EOF while parsing a value"
  | .noColon => "expected `:`"
  | .noListComma => "expected `,` or `]`"
  | .noObjectComma => "expected `,` or `\x7d`"
  | .noWord => "expected ident"
  | .noValue => "expected value"
  | .noKey => "key must be a string"
  | .badEscape => "invalid escape"
  | .badNumber => "invalid number"
  | .outOfRange => "number out of range"
  | .control => "control character (\\u0000-\\u001F) found while parsing a string"
  | .loneSurrogate => "lone leading surrogate in hex escape"
  | .endOfPair => "unexpected end of hex escape"
  | .tooDeep => "recursion limit exceeded"
  | .trailingComma => "trailing comma"
  | .trailingCharacters => "trailing characters"
  | .wrongType found expected => s!"invalid type: {found.description}, expected {expected}"
  | .wrongValue found expected => s!"invalid value: {found.description}, expected {expected}"
  | .wrongLength length expected => s!"invalid length {length}, expected {expected}"
  | .duplicate field => s!"duplicate field `{field}`"
  | .unknownVariant name known => s!"unknown variant `{name}`, expected {known}"

/-- Lines are counted from one, and columns are the bytes of a line before the place. -/
structure Position where
  line : Nat
  column : Nat
  deriving DecidableEq, Repr

namespace Position

def start : Position := ⟨1, 0⟩

def next (p : Position) (c : Char) : Position :=
  if c = '\n' then ⟨p.line + 1, 0⟩ else ⟨p.line, p.column + c.utf8Size⟩

def ahead (p : Position) (bytes : Nat) : List Char → Position
  | [] => p
  | c :: rest =>
    if c.utf8Size ≤ bytes then (p.next c).ahead (bytes - c.utf8Size) rest
    else ⟨p.line, p.column + bytes⟩

end Position

structure Fault where
  reason : Reason
  position : Position
  deriving DecidableEq, Repr

def Fault.message (f : Fault) : String :=
  s!"{f.reason.message} at line {f.position.line} column {f.position.column}"

inductive Stop
  /-- The place is so many bytes into what is left of the text. -/
  | here (reason : Reason) (rest : List Char) (bytes : Nat)
  /-- A string of the text is to be read as a text of its own, and has a fault. -/
  | inside (fault : Fault)
  deriving DecidableEq, Repr

def Stop.fault (text : List Char) : Stop → Fault
  | .here reason rest bytes =>
    let read := text.take (text.length - rest.length)
    ⟨reason, (read.foldl Position.next .start).ahead bytes rest⟩
  | .inside fault => fault

end TraceQuery.Json
