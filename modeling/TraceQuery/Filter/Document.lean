import TraceQuery.Wire.Filter

/-! A list of filters as a JSON text, limited in size before it is read and in length after. -/

set_option autoImplicit false
namespace TraceQuery.FilterDocument

def maxBytes : Nat := 65536

def maxFilters : Nat := 50

inductive Failure
  | tooLarge
  | invalidJson
  | tooMany (count : Nat)
  deriving DecidableEq, Repr

def Failure.message : Failure → String
  | .tooLarge => s!"Filter JSON exceeds maximum size of {maxBytes} bytes"
  | .invalidJson => "Invalid filter JSON"
  | .tooMany count => s!"Maximum {maxFilters} filters allowed, got {count}"

def read (text : String) : Except Failure (List SearchFilter) :=
  if maxBytes < text.utf8ByteSize then .error .tooLarge
  else
    match (Json.Decoder.list SearchFilter.decoder).read? text with
    | none => .error .invalidJson
    | some filters =>
      if maxFilters < filters.length then .error (.tooMany filters.length) else .ok filters

end TraceQuery.FilterDocument
