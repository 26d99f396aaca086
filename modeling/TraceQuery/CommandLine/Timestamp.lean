/-!
Timestamps of RFC 3339 as nanoseconds since the epoch. Only those that a signed 64-bit number of
nanoseconds holds, and that are not before the epoch, are times of spans.
-/

set_option autoImplicit false
namespace TraceQuery.Timestamp

def isLeap (year : Nat) : Bool :=
  year % 4 == 0 && (year % 100 != 0 || year % 400 == 0)

def monthLengths (year : Nat) : List Nat :=
  [31, if isLeap year then 29 else 28, 31, 30, 31, 30, 31, 31, 30, 31, 30, 31]

/-- Days since the first of January 1970. -/
def days (year month day : Nat) : Int :=
  let before : Int := (year : Int) - 1
  365 * before + before / 4 - before / 100 + before / 400
    + ((monthLengths year).take (month - 1)).foldl (· + ·) day - 719163

structure Fields where
  year : Nat
  month : Nat
  day : Nat
  hour : Nat
  minute : Nat
  second : Nat
  nanosecond : Nat
  -- in seconds
  offset : Int
  deriving DecidableEq, Repr

/-- A second of sixty is a leap second, in whatever minute it stands. -/
def Fields.isValid (f : Fields) : Bool :=
  let monthLength := ((monthLengths f.year)[f.month - 1]?).getD 0
  1 ≤ f.month && f.month ≤ 12 && 1 ≤ f.day && f.day ≤ monthLength &&
    f.hour ≤ 23 && f.minute ≤ 59 && f.second ≤ 60 && f.offset.natAbs < 24 * 3600

def Fields.nanoseconds (f : Fields) : Int :=
  (days f.year f.month f.day * 86400 + (f.hour * 3600 + f.minute * 60 + f.second : Nat) - f.offset)
    * 1000000000 + f.nanosecond

def number? : Nat → Nat → List Char → Option (Nat × List Char)
  | 0, n, rest => some (n, rest)
  | width + 1, n, c :: rest =>
    if c.isDigit then number? width (10 * n + (c.toNat - '0'.toNat)) rest else none
  | _ + 1, _, [] => none

def mark? (allowed : List Char) : List Char → Option (List Char)
  | c :: rest => if c ∈ allowed then some rest else none
  | [] => none

def fraction? : List Char → Option (Nat × List Char)
  | '.' :: rest =>
    let digits := rest.takeWhile Char.isDigit
    if digits.isEmpty then none
    else
      -- digits beyond the ninth are passed over
      some (Nat.ofDigitChars 10 ((digits.take 9).rightpad 9 '0') 0, rest.dropWhile Char.isDigit)
  | rest => some (0, rest)

/-- A zone: `Z`, or a sign, hours, a colon and minutes; the sign may be the minus sign proper. -/
def offset? : List Char → Option Int
  | ['Z'] | ['z'] => some 0
  | sign :: rest => do
    let (hours, rest) ← number? 2 0 rest
    let rest ← mark? [':'] rest
    let (minutes, rest) ← number? 2 0 rest
    if rest ≠ [] ∨ 59 < minutes then none
    let seconds : Int := hours * 3600 + minutes * 60
    if sign = '+' then some seconds
    else if sign = '-' ∨ sign = '−' then some (-seconds)
    else none
  | [] => none

def fields? (text : List Char) : Option Fields := do
  let (year, rest) ← number? 4 0 text
  let rest ← mark? ['-'] rest
  let (month, rest) ← number? 2 0 rest
  let rest ← mark? ['-'] rest
  let (day, rest) ← number? 2 0 rest
  let rest ← mark? ['T', 't', ' '] rest
  let (hour, rest) ← number? 2 0 rest
  let rest ← mark? [':'] rest
  let (minute, rest) ← number? 2 0 rest
  let rest ← mark? [':'] rest
  let (second, rest) ← number? 2 0 rest
  let (nanosecond, rest) ← fraction? rest
  let offset ← offset? rest
  let f : Fields := { year, month, day, hour, minute, second, nanosecond, offset }
  if f.isValid then some f else none

def read (text : String) : Except String UInt64 :=
  match fields? text.toList with
  | none => .error s!"Invalid RFC 3339 timestamp '{text}'"
  | some f =>
    let n := f.nanoseconds
    if 0 ≤ n ∧ n ≤ Int64.maxValue.toInt then .ok (UInt64.ofNat n.toNat)
    else .error s!"Timestamp '{text}' is outside the supported range"

end TraceQuery.Timestamp
