/-!
The shortest decimal that a double is read back from: of the decimals with the fewest digits
among those that round to the double, the one nearest to it.
-/

set_option autoImplicit false
namespace TraceQuery.Decimal

inductive Tie
  | up
  | even
  deriving DecidableEq

def binade : Nat := 4503599627370496 -- 2 ^ 52

def signBit : Nat := 9223372036854775808 -- 2 ^ 63

/-- The reals that round to one double, each bound a numerator over `den`. -/
structure Interval where
  low : Nat
  value : Nat
  high : Nat
  den : Nat
  -- whether the bounds round to the double themselves
  closed : Bool

def Interval.ofBits (bits : Nat) : Interval :=
  let exponent := bits / binade % 2048
  let fraction := bits % binade
  let mantissa := if exponent = 0 then fraction else fraction + binade
  -- the value is `mantissa * 2 ^ power / 2 ^ 1075`, and its neighbours lie one mantissa away
  let power := if exponent = 0 then 1 else exponent
  let below := if fraction = 0 ∧ 1 < exponent then 1 else 2
  let shift := Nat.pow 2 power
  { low := (4 * mantissa - below) * shift
    value := 4 * mantissa * shift
    high := (4 * mantissa + 2) * shift
    den := Nat.pow 2 1077
    closed := mantissa % 2 == 0 }

/-- The decimal `coefficient * 10 ^ exponent`. -/
structure Scaled where
  coefficient : Nat
  exponent : Int
  deriving DecidableEq, Repr

def leading (num den : Nat) : Int :=
  if den ≤ num then ((Nat.toDigits 10 (num / den)).length : Int) - 1
  else -((Nat.toDigits 10 ((den - 1) / num)).length : Int)

/-- The better of the value's two neighbours among the multiples of `10 ^ exponent`. -/
def Interval.nearest? (i : Interval) (tie : Tie) (exponent : Int) : Option Scaled :=
  let up := Nat.pow 10 (-exponent).toNat
  let unit := i.den * Nat.pow 10 exponent.toNat
  let floor := i.value * up / unit
  let inside (c : Nat) : Bool :=
    if i.closed then i.low * up ≤ c * unit && c * unit ≤ i.high * up
    else i.low * up < c * unit && c * unit < i.high * up
  let below := i.value * up - floor * unit
  let above := (floor + 1) * unit - i.value * up
  let floorNearer := below < above || (below == above && tie == .even && floor % 2 == 0)
  match inside floor, inside (floor + 1) with
  | true, true => some ⟨if floorNearer then floor else floor + 1, exponent⟩
  | true, false => some ⟨floor, exponent⟩
  | false, true => some ⟨floor + 1, exponent⟩
  | false, false => none

def Interval.shortest (i : Interval) (tie : Tie) : Scaled :=
  let top := leading i.value i.den
  -- seventeen digits tell all doubles apart
  ((List.range 17).findSome? fun n : Nat => i.nearest? tie (top - n)).getD ⟨0, 0⟩

def shortest (tie : Tie) (x : Float) : Scaled :=
  let bits := x.toBits.toNat % signBit
  if bits = 0 then ⟨0, 0⟩ else (Interval.ofBits bits).shortest tie

def Scaled.digits (s : Scaled) : List Char × Int :=
  let all := Nat.toDigits 10 s.coefficient
  let kept := (all.reverse.dropWhile (· == '0')).reverse
  if kept.isEmpty then (['0'], 0)
  -- the exponent makes up for the zeros at the end
  else (kept, s.exponent + ((all.length - kept.length : Nat) : Int))

def isNegative (x : Float) : Bool :=
  signBit ≤ x.toBits.toNat

end TraceQuery.Decimal
