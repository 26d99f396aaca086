import TraceQuery.Json.Numeral

/-! JSON values, their members in the order of first appearance, and their text. -/

set_option autoImplicit false
namespace TraceQuery

inductive Json
  | null
  | bool (b : Bool)
  | number (n : Json.Number)
  | string (s : String)
  | array (items : List Json)
  | object (members : List (String × Json))

namespace Json

/-- A later value of a key takes the place of the earlier one. -/
def insert (members : List (String × Json)) (key : String) (value : Json) :
    List (String × Json) :=
  match members with
  | [] => [(key, value)]
  | (k, v) :: rest => if k = key then (key, value) :: rest else (k, v) :: insert rest key value

def hexDigit (n : Nat) : Char :=
  n.digitChar

/-- Quotes, backslashes and controls are escaped, and nothing else. -/
def escape (c : Char) : List Char :=
  if c = '"' then ['\\', '"']
  else if c = '\\' then ['\\', '\\']
  else if c = '\x08' then ['\\', 'b']
  else if c = '\x0c' then ['\\', 'f']
  else if c = '\n' then ['\\', 'n']
  else if c = '\r' then ['\\', 'r']
  else if c = '\t' then ['\\', 't']
  else if c < ' ' then ['\\', 'u', '0', '0', hexDigit (c.toNat / 16), hexDigit (c.toNat % 16)]
  else [c]

def quote (s : String) : List Char :=
  '"' :: (s.toList.flatMap escape ++ ['"'])

mutual

def chars : Json → List Char
  | .null => "null".toList
  | .bool true => "true".toList
  | .bool false => "false".toList
  | .number n => n.text
  | .string s => quote s
  | .array items => '[' :: (itemChars items ++ [']'])
  | .object members => '{' :: (memberChars members ++ ['}'])

def itemChars : List Json → List Char
  | [] => []
  | [item] => item.chars
  | item :: rest => item.chars ++ ',' :: itemChars rest

def memberChars : List (String × Json) → List Char
  | [] => []
  | [(key, value)] => quote key ++ ':' :: value.chars
  | (key, value) :: rest => quote key ++ ':' :: (value.chars ++ ',' :: memberChars rest)

end

def render (v : Json) : String :=
  String.ofList v.chars

def newline (depth : Nat) : List Char :=
  '\n' :: List.replicate (2 * depth) ' '

mutual

def prettyChars (depth : Nat) : Json → List Char
  | .array [] => ['[', ']']
  | .array items => '[' :: (prettyItems (depth + 1) items ++ newline depth ++ [']'])
  | .object [] => ['{', '}']
  | .object members => '{' :: (prettyMembers (depth + 1) members ++ newline depth ++ ['}'])
  | .null => "null".toList
  | .bool true => "true".toList
  | .bool false => "false".toList
  | .number n => n.text
  | .string s => quote s

def prettyItems (depth : Nat) : List Json → List Char
  | [] => []
  | [item] => newline depth ++ prettyChars depth item
  | item :: rest => newline depth ++ prettyChars depth item ++ ',' :: prettyItems depth rest

def prettyMembers (depth : Nat) : List (String × Json) → List Char
  | [] => []
  | [(key, value)] => newline depth ++ quote key ++ ':' :: ' ' :: prettyChars depth value
  | (key, value) :: rest =>
    newline depth ++ quote key ++ ':' :: ' ' :: (prettyChars depth value ++
      ',' :: prettyMembers depth rest)

end

/-- The text with every item and member on a line of its own, indented by two. -/
def pretty (v : Json) : String :=
  String.ofList (prettyChars 0 v)

/-- A double that is not finite has no number, and is written as null. -/
def ofFloat (x : Float) : Json :=
  if h : x.isFinite = true then .number (.float x h) else .null

def ofInt64 (n : Int64) : Json :=
  .number (.integer n.toInt ⟨n.le_toInt, Int.lt_trans n.toInt_lt (by decide)⟩)

def ofInt32 (n : Int32) : Json :=
  .number
    (.integer n.toInt ⟨Int.le_trans (by decide) n.le_toInt, Int.lt_trans n.toInt_lt (by decide)⟩)

def ofUInt64 (n : UInt64) : Json :=
  .number (.integer n.toNat
    ⟨Int.le_trans (by decide) (Int.natCast_nonneg _), Int.ofNat_lt.2 n.toNat_lt_size⟩)

def ofUInt32 (n : UInt32) : Json :=
  .number (.integer n.toNat
    ⟨Int.le_trans (by decide) (Int.natCast_nonneg _),
      Int.lt_trans (Int.ofNat_lt.2 n.toNat_lt_size) (by decide)⟩)

end Json

end TraceQuery
