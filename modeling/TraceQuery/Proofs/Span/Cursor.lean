import TraceQuery.Span.Cursor

/-! When a page has a token, and which boundary the token stands for. -/

set_option autoImplicit false
namespace TraceQuery

/-- A page with this many rows fetched is followed by another, if it has a span. -/
def CursorPolicy.offers (policy : CursorPolicy) (fetched : Nat) (pageSize : UInt32) : Bool :=
  match policy with
  | .anyRows => true
  | .fullPage => pageSize.toNat ≤ fetched

namespace PageToken

theorem next?_eq (spans : List Span) (field : SortField) (fetched : Nat) (pageSize : UInt32)
    (policy : CursorPolicy) :
    next? spans field fetched pageSize policy =
      if policy.offers fetched pageSize then
        spans.getLast?.map fun last => ofSortValue (last.sortValue field)
      else none := by
  unfold next?
  cases spans.getLast? with
  | none => simp
  | some last => cases policy <;> rfl

theorem next?_eq_some_iff {spans : List Span} {field : SortField} {fetched : Nat}
    {pageSize : UInt32} {policy : CursorPolicy} {token : PageToken} :
    next? spans field fetched pageSize policy = some token ↔
      policy.offers fetched pageSize ∧
        ∃ last, spans.getLast? = some last ∧ ofSortValue (last.sortValue field) = token := by
  rw [next?_eq]
  cases policy.offers fetched pageSize <;> simp

theorem boundary?_ofSortValue (n : UInt64) : (ofSortValue n).boundary? = Word.int64? n.toNat := by
  have digits : (ofSortValue n).text.toList = Nat.toDigits 10 n.toNat := Nat.toList_repr
  have all : (Nat.toDigits 10 n.toNat).all Char.isDigit = true := by
    rw [List.all_eq_true]
    intro c member
    exact Nat.isDigit_of_mem_toDigits (by decide) (by decide) member
  -- What is printed are digits, and at least one.
  have accepted : Nat.toDigits 10 n.toNat ≠ [] ∧
      (Nat.toDigits 10 n.toNat).all Char.isDigit = true := ⟨Nat.toDigits_ne_nil, all⟩
  simp only [boundary?, digits]
  rw [if_pos accepted, Nat.ofDigitChars_ten_toDigits]

theorem boundary?_ofSortValue_of_eq {n : UInt64} {b : Int64} (same : (n.toNat : Int) = b.toInt) :
    (ofSortValue n).boundary? = some b := by
  rw [boundary?_ofSortValue]
  exact Word.int64?_eq_some_iff.2 same.symm

end PageToken

end TraceQuery
