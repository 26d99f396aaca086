/-!
Bytes read as UTF-8. A byte that begins no character stands as `none`, so that a reader of the
result can pass over it or refuse it.
-/

set_option autoImplicit false
namespace TraceQuery.Utf8

def scalarsFrom (bytes : ByteArray) : Nat → Nat → List (Option Char) → List (Option Char)
  | 0, _, done => done.reverse
  | steps + 1, offset, done =>
    if offset < bytes.size then
      match bytes.utf8DecodeChar? offset with
      | some c => scalarsFrom bytes steps (offset + c.utf8Size) (some c :: done)
      | none => scalarsFrom bytes steps (offset + 1) (none :: done)
    else done.reverse

/-- Every step takes at least one byte, so as many steps as bytes are enough. -/
def scalars (bytes : ByteArray) : List (Option Char) :=
  scalarsFrom bytes bytes.size 0 []

def text? (bytes : ByteArray) : Option String :=
  String.fromUTF8? bytes

end TraceQuery.Utf8
