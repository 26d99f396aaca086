import Mathlib.Data.List.Induction
import Mathlib.Data.List.TakeWhile
import Mathlib.Data.Nat.Digits.Defs
import TraceQuery.Proofs.Span.Cursor
import TraceQuery.Reader.Basic

/-!
Page tokens as texts. A token is accepted if it is ASCII digits alone and denotes a stored integer,
whatever number of zeros it begins with; printed again, the integer has none of them. So sort values
and the tokens without such zeros stand for each other.
-/

set_option autoImplicit false
namespace TraceQuery

/-! ## Decimal texts -/

/-- ASCII digits, at least one of them, and the number that they denote. -/
structure Denotes (text : String) (n : Nat) : Prop where
  nonempty : text ≠ ""
  digits : ∀ c ∈ text.toList, c.isDigit
  value : Nat.ofDigits 10 (text.toList.reverse.map fun c => c.toNat - '0'.toNat) = n

/-- What is left of digits without their leading zeros: a single zero if there is nothing else. -/
def withoutLeadingZeros (ds : List Char) : List Char :=
  match ds.dropWhile (· = '0') with
  | [] => ['0']
  | kept => kept

theorem toNat_of_isDigit {c : Char} (digit : c.isDigit) : 48 ≤ c.toNat ∧ c.toNat ≤ 57 := by
  simpa [Char.isDigit, UInt32.le_iff_toNat_le] using digit

theorem digitChar_of_isDigit {c : Char} (digit : c.isDigit) :
    Nat.digitChar (c.toNat - '0'.toNat) = c := by
  have bounds := toNat_of_isDigit digit
  have zero : '0'.toNat = 48 := rfl
  apply Char.toNat_inj.1
  rw [Nat.toNat_digitChar_of_lt_ten (by omega)]
  omega

/-- The last digit is worth least, though reading begins with the first one. -/
theorem ofDigits_reverse (ds : List Char) :
    Nat.ofDigits 10 (ds.reverse.map fun c => c.toNat - '0'.toNat) = Nat.ofDigitChars 10 ds 0 := by
  induction ds using List.reverseRecOn with
  | nil => rfl
  | append_singleton ds c ih =>
    rw [List.reverse_append, List.reverse_singleton, List.singleton_append, List.map_cons,
      Nat.ofDigits_cons, ih, Nat.ofDigitChars_append, Nat.ofDigitChars_cons]
    exact Nat.add_comm _ _

theorem withoutLeadingZeros_eq_zero_iff {ds : List Char} :
    withoutLeadingZeros ds = ['0'] ↔ ∀ d ∈ ds, d = '0' := by
  have zeros : (∀ d ∈ ds, d = '0') ↔ ds.dropWhile (· = '0') = [] := by
    simp [List.dropWhile_eq_nil_iff]
  rw [zeros, withoutLeadingZeros]
  split
  · next empty => simp [empty]
  · next nonempty =>
    -- What is kept begins with another digit than zero.
    refine ⟨fun single => ?_, fun empty => absurd empty nonempty⟩
    have first := List.head?_dropWhile_not (· = '0') ds
    rw [single] at first
    simp at first

theorem withoutLeadingZeros_append_of_zeros {ds : List Char} (zeros : ∀ d ∈ ds, d = '0')
    (c : Char) : withoutLeadingZeros (ds ++ [c]) = [c] := by
  rw [withoutLeadingZeros, List.dropWhile_append_of_pos (by simpa using zeros)]
  by_cases zero : c = '0' <;> simp [zero]

theorem withoutLeadingZeros_append {ds : List Char} (nonzero : ¬∀ d ∈ ds, d = '0')
    (c : Char) : withoutLeadingZeros (ds ++ [c]) = withoutLeadingZeros ds ++ [c] := by
  have kept : ds.dropWhile (· = '0') ≠ [] := by
    simpa [List.dropWhile_eq_nil_iff] using nonzero
  obtain ⟨d, kept, same⟩ := List.exists_cons_of_ne_nil kept
  rw [withoutLeadingZeros, withoutLeadingZeros, List.dropWhile_append, same]
  rfl

theorem toDigits_ofDigitChars {ds : List Char} (digits : ∀ c ∈ ds, c.isDigit) :
    Nat.toDigits 10 (Nat.ofDigitChars 10 ds 0) = withoutLeadingZeros ds := by
  induction ds using List.reverseRecOn with
  | nil => rfl
  | append_singleton ds c ih =>
    have digit : c.isDigit := digits c (by simp)
    have bounds := toNat_of_isDigit digit
    have small : c.toNat - '0'.toNat < 10 := by
      have zero : '0'.toNat = 48 := rfl
      omega
    have last : Nat.toDigits 10 (c.toNat - '0'.toNat) = [c] := by
      rw [Nat.toDigits_of_lt_base small, digitChar_of_isDigit digit]
    have before := ih fun d member => digits d (by simp [member])
    rw [Nat.ofDigitChars_append, Nat.ofDigitChars_cons, Nat.ofDigitChars_nil]
    generalize Nat.ofDigitChars 10 ds 0 = n at before ⊢
    -- The digits before the last one are all zeros just when they denote zero.
    by_cases zero : n = 0
    · subst zero
      have zeros := withoutLeadingZeros_eq_zero_iff.1 (before.symm.trans (Nat.toDigits_zero 10))
      rw [withoutLeadingZeros_append_of_zeros zeros, Nat.mul_zero, Nat.zero_add, last]
    · have nonzero : ¬∀ d ∈ ds, d = '0' := by
        intro zeros
        have single := before.trans (withoutLeadingZeros_eq_zero_iff.2 zeros)
        have read := Nat.ofDigitChars_ten_toDigits (n := n)
        rw [single] at read
        exact zero read.symm
      rw [withoutLeadingZeros_append nonzero, ← before, ← last,
        Nat.toDigits_append_toDigits (by decide) (Nat.pos_of_ne_zero zero) small]

theorem exists_toInt_eq_iff {n : Nat} : (∃ b : Int64, b.toInt = n) ↔ n ≤ 9223372036854775807 := by
  constructor
  · rintro ⟨b, same⟩
    have bound := b.toInt_lt
    omega
  · intro bound
    exact ⟨.ofInt n, Int64.toInt_ofInt_of_le (by omega) (by omega)⟩

/-! ## Tokens -/

namespace PageToken

def decode (token : PageToken) : Except QueryError Int64 :=
  match token.boundary? with
  | some b => .ok b
  | none => .error (.invalidCursor token)

variable {token : PageToken} {b : Int64}

theorem boundary_eq_decode {request : SearchRequest} (given : request.nextToken = some token) :
    SpanReader.boundary request = token.decode.map some := by
  simp only [SpanReader.boundary, given, decode]
  cases token.boundary? <;> rfl

theorem boundary?_eq_some_iff :
    token.boundary? = some b ↔ ∃ n, Denotes token.text n ∧ b.toInt = n := by
  simp only [boundary?]
  split
  · next accepted =>
    obtain ⟨nonempty, digits⟩ := accepted
    rw [Word.int64?_eq_some_iff]
    constructor
    · intro same
      refine ⟨_, ⟨?_, ?_, ofDigits_reverse _⟩, same⟩
      · simpa using nonempty
      · simpa using digits
    · rintro ⟨n, denoted, same⟩
      rw [same, ← denoted.value, ofDigits_reverse]
  · next refused =>
    refine ⟨fun missing => absurd missing (Option.some_ne_none b).symm, ?_⟩
    rintro ⟨n, denoted, -⟩
    exact absurd ⟨by simpa using denoted.nonempty, by simpa using denoted.digits⟩ refused

theorem decode_eq_ok_iff : token.decode = .ok b ↔ ∃ n, Denotes token.text n ∧ b.toInt = n := by
  rw [← boundary?_eq_some_iff, decode]
  cases token.boundary? <;> simp

theorem decode_eq_error {e : QueryError} (failed : token.decode = .error e) :
    e = .invalidCursor token := by
  unfold decode at failed
  split at failed
  · cases failed
  · cases failed
    rfl

theorem exists_decode_iff :
    (∃ b, token.decode = .ok b) ↔ ∃ n, Denotes token.text n ∧ n ≤ 9223372036854775807 := by
  simp only [decode_eq_ok_iff, ← exists_toInt_eq_iff]
  constructor
  · rintro ⟨b, n, denoted, same⟩
    exact ⟨n, denoted, b, same⟩
  · rintro ⟨n, denoted, b, same⟩
    exact ⟨b, n, denoted, same⟩

theorem repr_of_decode (read : token.decode = .ok b) :
    b.toInt.repr = String.ofList (withoutLeadingZeros token.text.toList) := by
  obtain ⟨n, denoted, same⟩ := decode_eq_ok_iff.1 read
  rw [same, ← toDigits_ofDigitChars denoted.digits, ← ofDigits_reverse, denoted.value]
  exact Nat.repr_eq_ofList_toDigits

theorem ofSortValue_injective : Function.Injective ofSortValue := by
  intro m n same
  apply UInt64.toNat_inj.1
  have digits : Nat.toDigits 10 m.toNat = Nat.toDigits 10 n.toNat := by
    have texts : m.toNat.repr.toList = n.toNat.repr.toList :=
      congrArg (fun token => token.text.toList) same
    rwa [Nat.toList_repr, Nat.toList_repr] at texts
  rw [← Nat.ofDigitChars_ten_toDigits (n := m.toNat), digits, Nat.ofDigitChars_ten_toDigits]

theorem decode_ofSortValue (n : UInt64) :
    (n.toNat ≤ 9223372036854775807 → ∃ b, (ofSortValue n).decode = .ok b ∧ b.toInt = n.toNat) ∧
      (9223372036854775807 < n.toNat →
        (ofSortValue n).decode = .error (.invalidCursor (ofSortValue n))) := by
  unfold decode
  rw [boundary?_ofSortValue]
  constructor
  · intro bound
    obtain ⟨b, same⟩ := exists_toInt_eq_iff.2 bound
    exact ⟨b, by rw [Word.int64?_eq_some_iff.2 same], same⟩
  · intro beyond
    cases read : Word.int64? n.toNat with
    | none => rfl
    | some b =>
      have bound := exists_toInt_eq_iff.1 ⟨b, Word.int64?_eq_some_iff.1 read⟩
      omega

theorem ofSortValue_of_decode {n : UInt64} (read : token.decode = .ok b)
    (canonical : withoutLeadingZeros token.text.toList = token.text.toList)
    (same : b.toInt = n.toNat) : ofSortValue n = token := by
  have printed := repr_of_decode read
  rw [same, canonical, String.ofList_toList] at printed
  exact congrArg PageToken.mk printed

/--
A search accepts just the texts that denote one of the stored integers, and refuses any other text
by an error that carries it. What is written for a span is read as its sort value if that is stored
as an integer. What is read is printed as the token without its leading zeros, so that no two sort
values have one token, and a token without such zeros is the one of the spans that it stands for.
-/
theorem tokens_denote_sort_values :
    (∀ (request : SearchRequest) token, request.nextToken = some token →
      SpanReader.boundary request = token.decode.map some) ∧
    (∀ text,
      ((∃ b, decode ⟨text⟩ = .ok b) ↔ ∃ n, Denotes text n ∧ n ≤ 9223372036854775807) ∧
      (∀ b, decode ⟨text⟩ = .ok b → ∃ n, Denotes text n ∧ b.toInt = n) ∧
      ∀ e, decode ⟨text⟩ = .error e → e = .invalidCursor ⟨text⟩) ∧
    (∀ (span : Span) (field : SortField),
      let token := ofSortValue (span.sortValue field)
      let value := (span.sortValue field).toNat
      (value ≤ 9223372036854775807 → ∃ b, token.decode = .ok b ∧ b.toInt = value) ∧
      (9223372036854775807 < value → token.decode = .error (.invalidCursor token))) ∧
    (∀ (token : PageToken) b, token.decode = .ok b →
      b.toInt.repr = String.ofList (withoutLeadingZeros token.text.toList)) ∧
    (∀ (first second : Span) (field other : SortField),
      ofSortValue (first.sortValue field) = ofSortValue (second.sortValue other) →
        first.sortValue field = second.sortValue other) ∧
    ∀ (token : PageToken) b (span : Span) (field : SortField), token.decode = .ok b →
      withoutLeadingZeros token.text.toList = token.text.toList →
      b.toInt = (span.sortValue field).toNat → ofSortValue (span.sortValue field) = token :=
  ⟨fun _ _ => boundary_eq_decode,
    fun _ => ⟨exists_decode_iff, fun _ => decode_eq_ok_iff.1, fun _ => decode_eq_error⟩,
    fun span field => decode_ofSortValue (span.sortValue field),
    fun _ _ => repr_of_decode,
    fun _ _ _ _ same => ofSortValue_injective same,
    fun _ _ _ _ => ofSortValue_of_decode⟩

/-- Zeros in front of the greatest boundary are no harm, and are not printed again. -/
theorem tokens_denote_sort_values_padded :
    let token : PageToken := ⟨"0009223372036854775807"⟩
    let request := { SearchRequest.standard with nextToken := some token }
    SpanReader.boundary request = .ok (some 9223372036854775807) ∧
      (9223372036854775807 : Int64).toInt.repr = "9223372036854775807" := by
  intro token request
  obtain ⟨searched, -, -, printed, -⟩ := tokens_denote_sort_values
  have read : token.decode = .ok 9223372036854775807 := by decide +kernel
  refine ⟨?_, (printed token _ read).trans (by decide +kernel)⟩
  rw [searched request token rfl, read]
  rfl

end PageToken

end TraceQuery
