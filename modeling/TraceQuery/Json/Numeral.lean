import TraceQuery.Decimal.Text

/-!
Numbers of JSON: how one is written, which value it has, and how a value is written back.

A numeral with neither fraction nor exponent is an integer where 64 bits hold it, signed or
unsigned; every other numeral is a double, and `-0` is one too.
-/

set_option autoImplicit false
namespace TraceQuery.Json

structure Numeral where
  negative : Bool
  whole : List Char
  fraction : List Char
  /-- The sign, negative or not, and the digits. -/
  exponent : Option (Bool × List Char)
  deriving DecidableEq, Repr

inductive Number
  | integer (value : Int) (inRange : Int64.minValue.toInt ≤ value ∧ value < UInt64.size)
  | float (value : Float) (isFinite : value.isFinite = true)
  deriving DecidableEq

namespace Numeral

def absorb : List Char → Nat → Nat × List Char
  | [], n => (n, [])
  | d :: rest, n =>
    let next := 10 * n + (d.toNat - '0'.toNat)
    if next < UInt64.size then absorb rest next else (n, d :: rest)

def significand (n : Numeral) : Nat × Int :=
  let (whole, dropped) := absorb n.whole 0
  let (all, ignored) := absorb n.fraction whole
  -- digits dropped before the point raise the power, and digits read behind it lower it
  (all, (dropped.length : Int) - ((n.fraction.length : Int) - ignored.length))

def writtenExponent (n : Numeral) : Int :=
  match n.exponent with
  | none => 0
  | some (true, digits) => -(Nat.ofDigitChars 10 digits 0 : Int)
  | some (false, digits) => Nat.ofDigitChars 10 digits 0

end Numeral

def powerOfTen (n : Nat) : Float :=
  Float.ofScientific 1 false n

def shrink : Nat → Float → Float
  | 0, x => x
  | times + 1, x => if x == 0 then x else shrink times (x / powerOfTen 308)

/--
Multiplies by a power of ten with one rounding, or divides by one, in steps of at most
`10 ^ 308`. A product too large for a double is no value.
-/
def scale? (x : Float) (exponent : Int) : Option Float :=
  if 0 ≤ exponent then
    if exponent ≤ 308 then
      let product := x * powerOfTen exponent.toNat
      if product.isInf then none else some product
    else if x == 0 then some x
    else none
  else
    let steps := ((-exponent).toNat - 1) / 308
    some (shrink steps x / powerOfTen ((-exponent).toNat - 308 * steps))

namespace Numeral

/-- The double read from the leading digits; the digits beyond 64 bits only count. -/
def double? (n : Numeral) : Option Float :=
  let (digits, exponent) := n.significand
  (scale? (UInt64.ofNat digits).toFloat (exponent + n.writtenExponent)).map fun x =>
    if n.negative then -x else x

def isWhole (n : Numeral) : Bool :=
  n.fraction.isEmpty && n.exponent.isNone

def value? (n : Numeral) : Option Number :=
  let magnitude := Nat.ofDigitChars 10 n.whole 0
  let integer : Int := if n.negative then -magnitude else magnitude
  if h : Int64.minValue.toInt ≤ integer ∧ integer < UInt64.size then
    -- no integer is written as a negative zero
    if n.isWhole && !(n.negative && magnitude == 0) then some (.integer integer h)
    else ofDouble n.double?
  else ofDouble n.double?
where
  ofDouble : Option Float → Option Number
    | none => none
    | some x => if h : x.isFinite = true then some (.float x h) else none

end Numeral

namespace Number

def text : Number → List Char
  | .integer value _ =>
    if value < 0 then '-' :: Nat.toDigits 10 value.natAbs else Nat.toDigits 10 value.natAbs
  | .float value _ => Decimal.number value

def toFloat : Number → Float
  | .integer value _ =>
    if value < 0 then -(UInt64.ofNat value.natAbs).toFloat else (UInt64.ofNat value.natAbs).toFloat
  | .float value _ => value

end Number

end TraceQuery.Json
