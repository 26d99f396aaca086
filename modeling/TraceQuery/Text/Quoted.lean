import TraceQuery.Text.Printable

/-! Text as it stands in a message: in double quotes, on one line, and all of it showing. -/

set_option autoImplicit false
namespace TraceQuery.Text

def shown (c : Char) : List Char :=
  if c = '"' then ['\\', '"']
  else if c = '\\' then ['\\', '\\']
  else if c = '\n' then ['\\', 'n']
  else if c = '\r' then ['\\', 'r']
  else if c = '\t' then ['\\', 't']
  else if c = '\x00' then ['\\', '0']
  else if isPrintable c then [c]
  else '\\' :: 'u' :: '{' :: (Nat.toDigits 16 c.toNat ++ ['}'])

def quoted (s : String) : String :=
  String.ofList ('"' :: (s.toList.flatMap shown ++ ['"']))

end TraceQuery.Text
