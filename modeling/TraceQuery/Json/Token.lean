import TraceQuery.Json.Numeral

/-!
The tokens of a JSON text. A text is read one character at a time, `none` standing for a byte
that belongs to no character; strings and numbers are kept as they are written.
-/

set_option autoImplicit false
namespace TraceQuery.Json

/-- A part of a written string: a character, a byte that is none, or a `\u` escape. -/
inductive Piece
  | char (c : Char)
  | stray
  | unit (code : Nat)
  deriving DecidableEq, Repr

inductive Token
  | leftBrace
  | rightBrace
  | leftBracket
  | rightBracket
  | comma
  | colon
  | null
  | bool (b : Bool)
  | numeral (n : Numeral)
  | text (pieces : List Piece)
  deriving DecidableEq, Repr

inductive Stage
  | minus
  | zero
  | whole
  | point
  | fraction
  | mark
  | exponentSign
  | exponent
  deriving DecidableEq

/-- A number being read, its digits last first. -/
structure Draft where
  negative : Bool
  whole : List Char
  fraction : List Char
  exponent : Option (Bool × List Char)

namespace Draft

def toNumeral (d : Draft) : Numeral :=
  ⟨d.negative, d.whole.reverse, d.fraction.reverse, d.exponent.map fun (s, ds) => (s, ds.reverse)⟩

def pushWhole (d : Draft) (c : Char) : Draft :=
  { d with whole := c :: d.whole }

def pushFraction (d : Draft) (c : Char) : Draft :=
  { d with fraction := c :: d.fraction }

def pushExponent (d : Draft) (c : Char) : Draft :=
  match d.exponent with
  -- without a sign the exponent is not negative
  | none => { d with exponent := some (false, [c]) }
  | some (sign, digits) => { d with exponent := some (sign, c :: digits) }

end Draft

inductive Place
  | between
  | word (rest : List Char) (token : Token)
  | number (stage : Stage) (draft : Draft)
  | string (seen : List Piece)
  | escape (seen : List Piece)
  | hex (seen : List Piece) (digits code : Nat)

/-- The tokens read so far, last first, and the place inside the next. -/
structure Scan where
  place : Place
  tokens : List Token

namespace Scan

def start : Scan := ⟨.between, []⟩

def emit (s : Scan) (t : Token) : Scan :=
  ⟨.between, t :: s.tokens⟩

def isSpace (c : Char) : Bool :=
  c == ' ' || c == '\t' || c == '\n' || c == '\r'

def between (tokens : List Token) (c : Char) : Option Scan :=
  if isSpace c then some ⟨.between, tokens⟩
  else if c = '{' then some ⟨.between, .leftBrace :: tokens⟩
  else if c = '}' then some ⟨.between, .rightBrace :: tokens⟩
  else if c = '[' then some ⟨.between, .leftBracket :: tokens⟩
  else if c = ']' then some ⟨.between, .rightBracket :: tokens⟩
  else if c = ',' then some ⟨.between, .comma :: tokens⟩
  else if c = ':' then some ⟨.between, .colon :: tokens⟩
  else if c = '"' then some ⟨.string [], tokens⟩
  else if c = 'n' then some ⟨.word ['u', 'l', 'l'] .null, tokens⟩
  else if c = 't' then some ⟨.word ['r', 'u', 'e'] (.bool true), tokens⟩
  else if c = 'f' then some ⟨.word ['a', 'l', 's', 'e'] (.bool false), tokens⟩
  else if c = '-' then some ⟨.number .minus ⟨true, [], [], none⟩, tokens⟩
  else if c = '0' then some ⟨.number .zero ⟨false, ['0'], [], none⟩, tokens⟩
  else if c.isDigit then some ⟨.number .whole ⟨false, [c], [], none⟩, tokens⟩
  else none

def advance? (stage : Stage) (d : Draft) (c : Char) : Option (Stage × Draft) :=
  match stage with
  | .minus =>
    if c = '0' then some (.zero, d.pushWhole c)
    else if c.isDigit then some (.whole, d.pushWhole c)
    else none
  | .zero =>
    if c = '.' then some (.point, d)
    else if c = 'e' ∨ c = 'E' then some (.mark, d)
    else none
  | .whole =>
    if c.isDigit then some (.whole, d.pushWhole c)
    else if c = '.' then some (.point, d)
    else if c = 'e' ∨ c = 'E' then some (.mark, d)
    else none
  | .point => if c.isDigit then some (.fraction, d.pushFraction c) else none
  | .fraction =>
    if c.isDigit then some (.fraction, d.pushFraction c)
    else if c = 'e' ∨ c = 'E' then some (.mark, d)
    else none
  | .mark =>
    if c = '+' then some (.exponentSign, { d with exponent := some (false, []) })
    else if c = '-' then some (.exponentSign, { d with exponent := some (true, []) })
    else if c.isDigit then some (.exponent, d.pushExponent c)
    else none
  | .exponentSign => if c.isDigit then some (.exponent, d.pushExponent c) else none
  | .exponent => if c.isDigit then some (.exponent, d.pushExponent c) else none

def complete (stage : Stage) : Bool :=
  match stage with
  | .zero | .whole | .fraction | .exponent => true
  | .minus | .point | .mark | .exponentSign => false

def unescape? (c : Char) : Option Char :=
  if c = '"' ∨ c = '\\' ∨ c = '/' then some c
  else if c = 'b' then some '\x08'
  else if c = 'f' then some '\x0c'
  else if c = 'n' then some '\n'
  else if c = 'r' then some '\r'
  else if c = 't' then some '\t'
  else none

def hexDigit? (c : Char) : Option Nat :=
  let n := c.toNat
  if c.isDigit then some (n - '0'.toNat)
  else if 'a'.toNat ≤ n ∧ n ≤ 'f'.toNat then some (n - 'a'.toNat + 10)
  else if 'A'.toNat ≤ n ∧ n ≤ 'F'.toNat then some (n - 'A'.toNat + 10)
  else none

def step (s : Scan) : Option Char → Option Scan
  | none =>
    match s.place with
    | .string seen => some ⟨.string (.stray :: seen), s.tokens⟩
    | _ => none
  | some c =>
    match s.place with
    | .between => between s.tokens c
    | .word [] _ => none
    | .word [last] token => if c = last then some (s.emit token) else none
    | .word (next :: rest) token =>
      if c = next then some ⟨.word rest token, s.tokens⟩ else none
    | .number stage draft =>
      match advance? stage draft c with
      | some (stage, draft) => some ⟨.number stage draft, s.tokens⟩
      | none => if complete stage then between (.numeral draft.toNumeral :: s.tokens) c else none
    | .string seen =>
      if c = '"' then some (s.emit (.text seen.reverse))
      else if c = '\\' then some ⟨.escape seen, s.tokens⟩
      else if c < ' ' then none
      else some ⟨.string (.char c :: seen), s.tokens⟩
    | .escape seen =>
      if c = 'u' then some ⟨.hex seen 0 0, s.tokens⟩
      else (unescape? c).map fun c => ⟨.string (.char c :: seen), s.tokens⟩
    | .hex seen digits code =>
      (hexDigit? c).map fun d =>
        if digits = 3 then ⟨.string (.unit (16 * code + d) :: seen), s.tokens⟩
        else ⟨.hex seen (digits + 1) (16 * code + d), s.tokens⟩

def run (s : Scan) : List (Option Char) → Option Scan
  | [] => some s
  | c :: rest =>
    match s.step c with
    | none => none
    | some s => run s rest

def finish? (s : Scan) : Option (List Token) :=
  match s.place with
  | .between => some s.tokens.reverse
  | .number stage draft =>
    if complete stage then some (.numeral draft.toNumeral :: s.tokens).reverse else none
  | _ => none

end Scan

def tokens? (text : List (Option Char)) : Option (List Token) :=
  (Scan.start.run text).bind Scan.finish?

end TraceQuery.Json
