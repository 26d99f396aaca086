import TraceQuery.Decimal.Shortest

/-! The two ways a double is written: plainly, and as a JSON number. -/

set_option autoImplicit false
namespace TraceQuery.Decimal

def zeros (n : Nat) : List Char :=
  List.replicate n '0'

def pointed (digits : List Char) (place : Int) (whole : List Char) : List Char :=
  if place ≤ 0 then '0' :: '.' :: (zeros (-place).toNat ++ digits)
  else if (digits.length : Int) ≤ place then
    digits ++ zeros (place - digits.length).toNat ++ whole
  else digits.take place.toNat ++ '.' :: digits.drop place.toNat

def signed (x : Float) (text : List Char) : List Char :=
  if isNegative x then '-' :: text else text

def plain (x : Float) : List Char :=
  if x.isNaN then "NaN".toList
  else if x.isInf then signed x "inf".toList
  else
    let (digits, exponent) := (shortest .up x).digits
    signed x (if digits = ['0'] then digits else pointed digits (digits.length + exponent) [])

def exponential (digits : List Char) (exponent : Int) : List Char :=
  let mantissa := match digits with
    | [] => []
    | [d] => [d]
    | d :: rest => d :: '.' :: rest
  let sign := if exponent < 0 then '-' else '+'
  mantissa ++ 'e' :: sign :: Nat.toDigits 10 exponent.natAbs

/-- With a point or an exponent always; the exponent where the point would stand more than sixteen
digits after the first or more than four zeros before it. -/
def number (x : Float) : List Char :=
  let (digits, exponent) := (shortest .even x).digits
  let place := digits.length + exponent
  signed x <|
    if digits = ['0'] then "0.0".toList
    else if -5 < place ∧ place ≤ 16 then pointed digits place ['.', '0']
    else exponential digits (place - 1)

end TraceQuery.Decimal
