import TraceQuery.Text.Utf8

/-! What stands at a path, as far as it can be read as text. -/

set_option autoImplicit false
namespace TraceQuery.Config

inductive File
  | absent
  | directory
  | text (content : String)
  /-- A file with bytes that are no text, of which the text before them can be read. -/
  | damaged (start : String)
  deriving DecidableEq, Repr

inductive AccessError
  | absent
  | directory
  | noText
  deriving DecidableEq, Repr

def AccessError.message : AccessError → String
  | .absent => "No such file or directory (os error 2)"
  | .directory => "Is a directory (os error 21)"
  | .noText => "stream did not contain valid UTF-8"

namespace File

def soundStart : List (Option Char) → List Char
  | some c :: rest => c :: soundStart rest
  | _ => []

def ofBytes (bytes : ByteArray) : File :=
  match Utf8.text? bytes with
  | some content => .text content
  | none => .damaged (String.ofList (soundStart (Utf8.scalars bytes)))

def read : File → Except AccessError String
  | .absent => .error .absent
  | .directory => .error .directory
  | .damaged _ => .error .noText
  | .text content => .ok content

def wholeLines (text : List Char) : List Char :=
  (text.reverse.dropWhile (· != '\n')).reverse

/-- What a reader sees that goes line by line, and stops at a line it cannot read. -/
def lines? : File → Option String
  | .absent | .directory => none
  | .text content => some content
  | .damaged start => some (String.ofList (wholeLines start.toList))

end File

end TraceQuery.Config
