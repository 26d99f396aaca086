import Mathlib.Data.List.DropRight
import TraceQuery.Json.Numeral

/-!
The numeral that stands for a number where it is written. The text of a number is the text of its
numeral, whose parts are digits as a JSON text may have them; that of a double has a fraction or
an exponent, so that it is never taken for an integer.
-/

set_option autoImplicit false
namespace TraceQuery

/-! ## Digits -/

theorem digitChar_ne_zero : ∀ d < 10, d ≠ 0 → Nat.digitChar d ≠ '0' := by
  decide

theorem head?_toDigits_ne {n : Nat} (positive : n ≠ 0) : (Nat.toDigits 10 n).head? ≠ some '0' := by
  induction n using Nat.strongRecOn with
  | ind n ih =>
    by_cases small : n < 10
    · rw [Nat.toDigits_of_lt_base small]
      simpa using digitChar_ne_zero n small positive
    · rw [Nat.toDigits_of_base_le (by decide) (Nat.le_of_not_lt small),
        List.head?_append_of_ne_nil _ Nat.toDigits_ne_nil]
      exact ih (n / 10) (by omega) (by omega)

theorem isDigit_of_mem_zero {c : Char} (member : c ∈ ['0']) : c.isDigit := by
  rw [List.mem_singleton.1 member]
  rfl

namespace Json

/-- Digits that may stand before the point: a zero alone, or digits that begin with no zero. -/
structure IsWhole (ds : List Char) : Prop where
  digits : ∀ c ∈ ds, c.isDigit
  nonempty : ds ≠ []
  leading : ds = ['0'] ∨ ds.head? ≠ some '0'

theorem isWhole_zero : IsWhole ['0'] :=
  ⟨fun _ => isDigit_of_mem_zero, by decide, .inl rfl⟩

theorem isWhole_toDigits (n : Nat) : IsWhole (Nat.toDigits 10 n) where
  digits _ member := Nat.isDigit_of_mem_toDigits (by decide) (by decide) member
  nonempty := Nat.toDigits_ne_nil
  leading := by
    by_cases zero : n = 0
    · exact .inl (zero ▸ Nat.toDigits_zero 10)
    · exact .inr (head?_toDigits_ne zero)

/-- More digits may follow, except behind a zero that stands alone. -/
theorem IsWhole.append {ds more : List Char} (whole : IsWhole ds) (leading : ds ≠ ['0'])
    (digits : ∀ c ∈ more, c.isDigit) : IsWhole (ds ++ more) where
  digits c member := (List.mem_append.1 member).elim (whole.digits c) (digits c)
  nonempty := by simp [whole.nonempty]
  leading := by
    rw [List.head?_append_of_ne_nil _ whole.nonempty]
    exact .inr (whole.leading.resolve_left leading)

theorem IsWhole.of_prefix {ds part : List Char} (whole : IsWhole ds) (leading : ds ≠ ['0'])
    (beginning : part <+: ds) (nonempty : part ≠ []) : IsWhole part where
  digits c member := whole.digits c (beginning.subset member)
  nonempty := nonempty
  leading := by
    obtain ⟨rest, rfl⟩ := beginning
    have first := whole.leading.resolve_left leading
    -- A nonempty beginning begins with the same digit.
    rw [List.head?_append_of_ne_nil _ nonempty] at first
    exact .inr first

/-! ## Numerals and their texts -/

namespace Numeral

def fractionChars : List Char → List Char
  | [] => []
  | ds => '.' :: ds

def exponentChars : Option (Bool × List Char) → List Char
  | none => []
  | some (negative, ds) => 'e' :: (if negative then '-' else '+') :: ds

def chars (n : Numeral) : List Char :=
  (if n.negative then ['-'] else []) ++
    (n.whole ++ (fractionChars n.fraction ++ exponentChars n.exponent))

structure WellFormed (n : Numeral) : Prop where
  whole : IsWhole n.whole
  fraction : ∀ c ∈ n.fraction, c.isDigit
  exponent : ∀ sign ds, n.exponent = some (sign, ds) → ds ≠ [] ∧ ∀ c ∈ ds, c.isDigit

end Numeral

end Json

namespace Decimal

open Json (Numeral IsWhole)

variable {s : Scaled} {x : Float}

/-- Without the zeros at its end, a coefficient other than zero keeps its leading digit. -/
theorem isWhole_digits (s : Scaled) : IsWhole s.digits.1 := by
  have all := Json.isWhole_toDigits s.coefficient
  unfold Scaled.digits
  simp only
  split
  · exact Json.isWhole_zero
  · next kept =>
    have kept : (Nat.toDigits 10 s.coefficient).rdropWhile (· == '0') ≠ [] := by
      simpa [List.rdropWhile] using kept
    by_cases zero : Nat.toDigits 10 s.coefficient = ['0']
    · rw [zero] at kept
      exact absurd rfl kept
    · exact all.of_prefix zero (List.rdropWhile_prefix (· == '0') _) kept

def numeral (x : Float) : Numeral :=
  let (digits, exponent) := (shortest .even x).digits
  let place : Int := digits.length + exponent
  if digits = ['0'] then ⟨isNegative x, ['0'], ['0'], none⟩
  else if -5 < place ∧ place ≤ 16 then
    if place ≤ 0 then ⟨isNegative x, ['0'], zeros (-place).toNat ++ digits, none⟩
    else if (digits.length : Int) ≤ place then
      ⟨isNegative x, digits ++ zeros (place - digits.length).toNat, ['0'], none⟩
    else ⟨isNegative x, digits.take place.toNat, digits.drop place.toNat, none⟩
  else
    ⟨isNegative x, digits.take 1, digits.drop 1,
      some (decide (place - 1 < 0), Nat.toDigits 10 (place - 1).natAbs)⟩

theorem isDigit_of_mem_zeros {n : Nat} {c : Char} (member : c ∈ zeros n) : c.isDigit := by
  rw [List.eq_of_mem_replicate member]
  rfl

theorem signed_eq (x : Float) (text : List Char) :
    signed x text = (if isNegative x then ['-'] else []) ++ text := by
  unfold signed
  split <;> rfl

theorem fractionChars_of_ne_nil {ds : List Char} (nonempty : ds ≠ []) :
    Numeral.fractionChars ds = '.' :: ds := by
  cases ds with
  | nil => exact absurd rfl nonempty
  | cons d rest => rfl

theorem exponential_eq {digits : List Char} (nonempty : digits ≠ []) (exponent : Int) :
    exponential digits exponent =
      digits.take 1 ++ (Numeral.fractionChars (digits.drop 1) ++
        Numeral.exponentChars
          (some (decide (exponent < 0), Nat.toDigits 10 exponent.natAbs))) := by
  match digits with
  | [d] => simp [exponential, Numeral.fractionChars, Numeral.exponentChars]
  | d :: e :: rest => simp [exponential, Numeral.fractionChars, Numeral.exponentChars]

theorem chars_numeral (x : Float) : (numeral x).chars = number x := by
  have whole := isWhole_digits (shortest .even x)
  unfold numeral number
  generalize (shortest .even x).digits = parts at whole ⊢
  obtain ⟨digits, exponent⟩ := parts
  dsimp only at whole ⊢
  rw [signed_eq]
  -- The cases are those of the layout: zero, a point among the digits or their zeros, an exponent.
  split
  · rfl
  split
  · unfold pointed
    split
    · rw [Numeral.chars, fractionChars_of_ne_nil (by simp [whole.nonempty])]
      simp [Numeral.exponentChars]
    split
    · simp [Numeral.chars, Numeral.fractionChars, Numeral.exponentChars]
    · next positive short =>
      have rest : digits.drop (digits.length + exponent).toNat ≠ [] := by
        rw [Ne, List.drop_eq_nil_iff]
        omega
      rw [Numeral.chars, fractionChars_of_ne_nil rest]
      simp [Numeral.exponentChars]
  · rw [exponential_eq whole.nonempty, Numeral.chars]

theorem wellFormed_numeral (x : Float) : (numeral x).WellFormed := by
  have whole := isWhole_digits (shortest .even x)
  unfold numeral
  generalize (shortest .even x).digits = parts at whole ⊢
  obtain ⟨digits, exponent⟩ := parts
  dsimp only at whole ⊢
  split
  · exact ⟨Json.isWhole_zero, fun _ => isDigit_of_mem_zero, by simp⟩
  next leading =>
  split
  · split
    · refine ⟨Json.isWhole_zero, fun c member => ?_, by simp⟩
      exact (List.mem_append.1 member).elim isDigit_of_mem_zeros (whole.digits c)
    split
    · exact ⟨whole.append leading fun _ => isDigit_of_mem_zeros, fun _ => isDigit_of_mem_zero,
        by simp⟩
    · next positive short =>
      refine ⟨whole.of_prefix leading (List.take_prefix _ _) ?_, fun c member => ?_, by simp⟩
      · rw [Ne, List.take_eq_nil_iff]
        simp only [whole.nonempty, or_false]
        omega
      · exact whole.digits c (List.mem_of_mem_drop member)
  · refine ⟨whole.of_prefix leading (List.take_prefix _ _) ?_, fun c member => ?_, ?_⟩
    · simp [List.take_eq_nil_iff, whole.nonempty]
    · exact whole.digits c (List.mem_of_mem_drop member)
    · rintro sign ds same
      cases same
      exact ⟨Nat.toDigits_ne_nil, (Json.isWhole_toDigits _).digits⟩

/-- A double is written with a fraction or an exponent, also where it is whole. -/
theorem isWhole_numeral (x : Float) : (numeral x).isWhole = false := by
  have whole := isWhole_digits (shortest .even x)
  unfold numeral
  generalize (shortest .even x).digits = parts at whole ⊢
  obtain ⟨digits, exponent⟩ := parts
  dsimp only at whole ⊢
  split
  · rfl
  split
  · split
    · simp [Numeral.isWhole, whole.nonempty]
    split
    · rfl
    · simp only [Numeral.isWhole, List.isEmpty_eq_false_iff, Bool.and_eq_false_iff]
      rw [Ne, List.drop_eq_nil_iff]
      omega
  · simp [Numeral.isWhole]

end Decimal

namespace Json.Numeral

theorem value?_of_not_isWhole {n : Numeral} (other : n.isWhole = false) :
    n.value? = value?.ofDouble n.double? := by
  simp [value?, other]

theorem ofDouble_eq_some_iff {double : Option Float} {n : Number} :
    value?.ofDouble double = some n ↔
      ∃ x, double = some x ∧ ∃ isFinite, n = .float x isFinite := by
  cases double with
  | none => simp [value?.ofDouble]
  | some x =>
    simp only [value?.ofDouble, Option.some.injEq, exists_eq_left']
    split
    · next finite => simp [finite, eq_comm (a := n)]
    · next infinite => simp [infinite]

end Json.Numeral

namespace Json.Number

def numeral : Number → Numeral
  | .integer value _ => ⟨decide (value < 0), Nat.toDigits 10 value.natAbs, [], none⟩
  | .float value _ => Decimal.numeral value

theorem chars_numeral (n : Number) : n.numeral.chars = n.text := by
  cases n with
  | integer value inRange =>
    by_cases negative : value < 0 <;>
      simp [numeral, text, Numeral.chars, Numeral.fractionChars, Numeral.exponentChars, negative]
  | float value isFinite => exact Decimal.chars_numeral value

theorem wellFormed_numeral (n : Number) : n.numeral.WellFormed := by
  cases n with
  | integer value inRange => exact ⟨isWhole_toDigits _, by simp [numeral], by simp [numeral]⟩
  | float value isFinite => exact Decimal.wellFormed_numeral value

def ReadsBack (n : Number) : Prop :=
  n.numeral.value? = some n

theorem readsBack_integer {value : Int}
    (inRange : Int64.minValue.toInt ≤ value ∧ value < UInt64.size) :
    (Number.integer value inRange).ReadsBack := by
  have same : (if value < 0 then -(value.natAbs : Int) else value.natAbs) = value := by
    split <;> omega
  simp only [ReadsBack, numeral, Numeral.value?, Nat.ofDigitChars_ten_toDigits, decide_eq_true_eq,
    same]
  rw [dif_pos inRange, if_pos]
  simp [Numeral.isWhole]
  omega

end Json.Number

/-- What a double's numeral stands for is a double, never an integer. -/
theorem Decimal.value?_numeral {x : Float} {n : Json.Number} (value : (numeral x).value? = some n) :
    ∃ y isFinite, n = .float y isFinite := by
  rw [Json.Numeral.value?_of_not_isWhole (isWhole_numeral x)] at value
  obtain ⟨y, -, isFinite, rfl⟩ := Json.Numeral.ofDouble_eq_some_iff.1 value
  exact ⟨y, isFinite, rfl⟩

end TraceQuery
