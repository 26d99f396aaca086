import TraceQuery.Span.Page
import TraceQuery.Word

/-!
Page tokens. A token is the decimal sort value of the last span of a page; the next page begins
strictly past it, so spans that tie with the last span are not returned.
-/

set_option autoImplicit false
namespace TraceQuery

inductive CursorPolicy
  /-- Whenever it has a span. -/
  | anyRows
  /-- Only when as many rows were returned as a page may have. -/
  | fullPage
  deriving DecidableEq, Repr

namespace CursorPolicy

def standard : CursorPolicy := .anyRows

def name : CursorPolicy → String
  | .anyRows => "any_rows"
  | .fullPage => "full_page"

def ofName? : String → Option CursorPolicy
  | "any_rows" => some .anyRows
  | "full_page" => some .fullPage
  | _ => none

end CursorPolicy

def Span.sortValue (s : Span) : SortField → UInt64
  | .startTime => s.startTimeUnixNano
  | .endTime => s.endTimeUnixNano
  | .duration => s.durationNano
  | .ingestionTime => s.ingestionTimeUnixNano

namespace PageToken

def ofSortValue (n : UInt64) : PageToken :=
  ⟨n.toNat.repr⟩

def boundary? (token : PageToken) : Option Int64 :=
  let digits := token.text.toList
  if digits ≠ [] ∧ digits.all Char.isDigit then
    Word.int64? (Nat.ofDigitChars 10 digits 0)
  else none

def invalidMessage (token : PageToken) : String :=
  s!"'{token.text}' is not a valid continuation token"

def next? (spans : List Span) (field : SortField) (fetched : Nat) (pageSize : UInt32)
    (policy : CursorPolicy) : Option PageToken :=
  match spans.getLast? with
  | none => none
  | some last =>
    let offered := match policy with
      | .anyRows => true
      -- rows that were no spans count as fetched
      | .fullPage => pageSize.toNat ≤ fetched
    if offered then some (ofSortValue (last.sortValue field)) else none

end PageToken

end TraceQuery
