import TraceQuery.Json.Decode
import TraceQuery.Json.Fault

/-!
The first fault of a JSON text, in the order in which it is read. A part of a text is read by a
function from what is left of the text to what follows the part.
-/

set_option autoImplicit false
namespace TraceQuery.Json.Inspect

def skipSpace (cs : List Char) : List Char :=
  cs.dropWhile Scan.isSpace

def word : List Char → List Char → Except Stop (List Char)
  | [], cs => .ok cs
  | _ :: _, [] => .error (.here .endOfValue [] 0)
  | expected :: more, c :: rest =>
    if c = expected then word more rest else .error (.here .noWord (c :: rest) 1)

/-! ## Numbers

Where a value is asked for, a text that ends inside a number lacks a value. -/

def startsWithDigit (cs : List Char) : Bool :=
  cs.head?.any Char.isDigit

def wholePart (asked : Bool) : List Char → Except Stop (List Char × List Char)
  | [] => .error (.here (if asked then .endOfValue else .badNumber) [] 0)
  | c :: rest =>
    if c = '0' then
      if startsWithDigit rest then .error (.here .badNumber rest 1) else .ok (['0'], rest)
    else if c.isDigit then .ok ((c :: rest).span Char.isDigit)
    else .error (.here .badNumber (c :: rest) 1)

def digits (asked : Bool) (cs : List Char) : Except Stop (List Char × List Char) :=
  if startsWithDigit cs then .ok (cs.span Char.isDigit)
  else .error (.here (if asked && cs.isEmpty then .endOfValue else .badNumber) cs 1)

def fractionPart (asked : Bool) : List Char → Except Stop (List Char × List Char)
  | '.' :: rest => digits asked rest
  | cs => .ok ([], cs)

def sign : List Char → Bool × List Char
  | '+' :: rest => (false, rest)
  | '-' :: rest => (true, rest)
  | cs => (false, cs)

def exponentPart (asked : Bool) : List Char → Except Stop (Option (Bool × List Char) × List Char)
  | [] => .ok (none, [])
  | c :: rest =>
    if c = 'e' ∨ c = 'E' then do
      let (negative, rest) := sign rest
      let (ds, rest) ← digits asked rest
      return (some (negative, ds), rest)
    else .ok (none, c :: rest)

def beyondRange (n : Nat) : List Char → List Char
  | [] => []
  | d :: rest =>
    let next := 10 * n + (d.toNat - '0'.toNat)
    if Int32.maxValue.toInt < next then rest else beyondRange next rest

def unread (n : Numeral) (rest : List Char) : List Char :=
  match n.exponent with
  | some (_, ds) => beyondRange 0 ds ++ rest
  | none => rest

def number (asked negative : Bool) (cs : List Char) : Except Stop (Numeral × List Char) := do
  let (whole, rest) ← wholePart asked cs
  let (fraction, rest) ← fractionPart asked rest
  let (exponent, rest) ← exponentPart asked rest
  let n : Numeral := ⟨negative, whole, fraction, exponent⟩
  -- reading stops at the digit with which an exponent leaves the range of 32 bits
  if asked && n.value?.isNone then throw (.here .outOfRange (unread n rest) 0)
  return (n, rest)

/-! ## Strings -/

inductive Part
  | text
  | escape
  /-- A code of four digits, of which so many have been read; the text at its start is kept, and
  the leading surrogate before it if there is one. -/
  | code (start : List Char) (digits value : Nat) (leading : Option Nat)
  -- a leading surrogate asks for another code: its backslash, and the letter behind it
  | pair (leading : Nat)
  | pairEscape (leading : Nat)

/-- A code takes four bytes, whatever they are. -/
def badCode (start : List Char) : Stop :=
  if (start.take 4).foldl (fun n c => n + c.utf8Size) 0 < 4 then .here .endOfString [] 0
  else .here .badEscape start 4

/-- A string whose opening quote has been read, with its characters so far, last first. Surrogates
have to come in pairs where the string is asked for. -/
def string (asked : Bool) (done : List Char) : Part → List Char → Except Stop (String × List Char)
  | _, [] => .error (.here .endOfString [] 0)
  | .text, c :: rest =>
    if c = '"' then .ok (String.ofList done.reverse, rest)
    else if c = '\\' then string asked done .escape rest
    else if c < ' ' then .error (.here .control (c :: rest) (if asked then 1 else 0))
    else string asked (c :: done) .text rest
  | .escape, c :: rest =>
    if c = 'u' then string asked done (.code rest 0 0 none) rest
    else
      match Scan.unescape? c with
      | some c => string asked (c :: done) .text rest
      | none => .error (.here .badEscape (c :: rest) 1)
  | .code start count value leading, c :: rest =>
    match Scan.hexDigit? c with
    | none => .error (badCode start)
    | some d =>
      let value := 16 * value + d
      if count < 3 then string asked done (.code start (count + 1) value leading) rest
      -- nobody asks whether surrogates come in pairs here
      else if !asked then string asked done .text rest
      else
        match leading with
        | some high =>
          if Piece.isLowSurrogate value then
            let c := Char.ofNat (0x10000 + (high - 0xD800) * 0x400 + (value - 0xDC00))
            string asked (c :: done) .text rest
          else .error (.here .loneSurrogate rest 0)
        | none =>
          if Piece.isLowSurrogate value then .error (.here .loneSurrogate rest 0)
          else if Piece.isHighSurrogate value then string asked done (.pair value) rest
          else string asked (Char.ofNat value :: done) .text rest
  | .pair leading, c :: rest =>
    if c = '\\' then string asked done (.pairEscape leading) rest
    else .error (.here .endOfPair (c :: rest) 1)
  | .pairEscape leading, c :: rest =>
    if c = 'u' then string asked done (.code rest 0 0 (some leading)) rest
    else .error (.here .endOfPair (c :: rest) 1)

/-! ## Values -/

def scalar (asked : Bool) : List Char → Except Stop (Found × List Char)
  | [] => .error (.here .endOfValue [] 1)
  | c :: rest =>
    if c = 'n' then (word ['u', 'l', 'l'] rest).map (.null, ·)
    else if c = 't' then (word ['r', 'u', 'e'] rest).map (.bool true, ·)
    else if c = 'f' then (word ['a', 'l', 's', 'e'] rest).map (.bool false, ·)
    else if c = '"' then (string asked [] .text rest).map fun (s, rest) => (.string s, rest)
    else if c = '-' then (number asked true rest).map fun (n, rest) => (.number n, rest)
    else if c.isDigit then
      (number asked false (c :: rest)).map fun (n, rest) => (.number n, rest)
    else .error (.here .noValue (c :: rest) 1)

def mismatch (expected : String) : List Char → Stop
  -- containers are left unread
  | '[' :: rest => .here (.wrongType .sequence expected) ('[' :: rest) 0
  | '{' :: rest => .here (.wrongType .map expected) ('{' :: rest) 0
  | cs =>
    match scalar true cs with
    | .ok (found, rest) => .here (.wrongType found expected) rest 0
    | .error stop => stop

def key : List Char → Except Stop (String × List Char)
  | '"' :: rest => string true [] .text rest
  | cs => .error (.here .noKey cs 1)

def colon (cs : List Char) : Except Stop (List Char) :=
  match skipSpace cs with
  | ':' :: rest => .ok rest
  | [] => .error (.here .endOfObject [] 1)
  | cs => .error (.here .noColon cs 1)

def rightBrace (cs : List Char) : Except Stop (List Char) :=
  match skipSpace cs with
  | '}' :: rest => .ok rest
  | ',' :: rest => .error (.here .trailingComma (',' :: rest) 1)
  | [] => .error (.here .endOfObject [] 1)
  | cs => .error (.here .trailingCharacters cs 1)

inductive Regard
  /-- Nobody asks for the part, and its grammar is all that counts. -/
  | grammar
  /-- Numbers and strings have to have values, and containers may not nest too deep. -/
  | content
  /-- Also, an object may hold a text in place of a value, and the text is looked at by this. -/
  | value (fault? : String → Option Fault)

def Regard.asked : Regard → Bool
  | .grammar => false
  | .content | .value _ => true

inductive Container
  | list
  | object
  deriving DecidableEq, Repr

namespace Container

def closing : Container → Char
  | .list => ']'
  | .object => '}'

def unended : Container → Reason
  | .list => .endOfList
  | .object => .endOfObject

def unseparated : Container → Reason
  | .list => .noListComma
  | .object => .noObjectComma

def ignoredKey : List Char → Except Stop (List Char)
  | '"' :: rest => (string false [] .text rest).bind fun (_, rest) => colon rest
  | [] => .error (.here .endOfObject [] 1)
  | cs => .error (.here .noKey cs 1)

def afterComma (asked : Bool) (c : Container) (cs : List Char) : Except Stop (List Char) :=
  let cs := skipSpace cs
  if asked && cs.head? == some c.closing then .error (.here .trailingComma cs 1)
  else
    match c with
    | .list => .ok cs
    | .object =>
      if !asked then ignoredKey cs
      else if cs.isEmpty then .error (.here .endOfValue [] 1)
      else (key cs).bind fun (_, rest) => colon rest

end Container

def embeddedText (fault? : String → Option Fault) (cs : List Char) :
    Except Stop (List Char) :=
  match skipSpace cs with
  | [] => .error (.here .endOfValue [] 1)
  | '"' :: rest => do
    let (content, rest) ← string true [] .text rest
    match fault? content with
    | some fault => throw (.inside fault)
    | none => rightBrace rest
  | cs => .error (mismatch "raw value" cs)

def firstKey (regard : Regard) (cs : List Char) : Except Stop (Bool × List Char) :=
  match regard with
  | .grammar => (Container.ignoredKey cs).map (false, ·)
  | .content => (key cs).bind fun (_, rest) => (colon rest).map (false, ·)
  | .value _ => (key cs).bind fun (name, rest) => (colon rest).map (name == embeddedKey, ·)

/--
Reads on to the end of a value, given the containers of the value that are open, innermost first,
and whether an item of the innermost has just been read. So many containers may be open at a time.
Each step takes a character, so that as many steps as characters and one more are enough.
-/
def walk (regard : Regard) (depth : Nat) :
    Nat → List Container → Bool → List Char → Except Stop (List Char)
  | 0, _, _, cs => .ok cs
  | _ + 1, [], true, cs => .ok cs
  | steps + 1, c :: outer, true, cs =>
    match skipSpace cs with
    | [] => .error (.here c.unended [] 1)
    | next :: rest =>
      if next = ',' then do
        let rest ← c.afterComma regard.asked rest
        walk regard depth steps (c :: outer) false rest
      else if next = c.closing then walk regard depth steps outer true rest
      else .error (.here c.unseparated (next :: rest) 1)
  | steps + 1, opened, false, cs =>
    match skipSpace cs with
    | '[' :: rest =>
      if regard.asked && depth ≤ opened.length then .error (.here .tooDeep ('[' :: rest) 1)
      else
        match skipSpace rest with
        | [] => .error (.here .endOfList [] 1)
        | ']' :: rest => walk regard depth steps opened true rest
        | rest => walk regard depth steps (.list :: opened) false rest
    | '{' :: rest =>
      if regard.asked && depth ≤ opened.length then .error (.here .tooDeep ('{' :: rest) 1)
      else
        match skipSpace rest with
        | [] => .error (.here .endOfObject [] 1)
        | '}' :: rest => walk regard depth steps opened true rest
        | rest => do
          let (embeds, rest) ← firstKey regard rest
          match regard, embeds with
          | .value fault?, true =>
            let rest ← embeddedText fault? rest
            walk regard depth steps opened true rest
          | _, _ => walk regard depth steps (.object :: opened) false rest
    | cs => do
      let (_, rest) ← scalar regard.asked cs
      walk regard depth steps opened true rest

def value (regard : Regard) (depth : Nat) (cs : List Char) : Except Stop (List Char) :=
  walk regard depth (cs.length + 1) [] false cs

def ending (cs : List Char) : Except Stop Unit :=
  match skipSpace cs with
  | [] => .ok ()
  | cs => .error (.here .trailingCharacters cs 1)

def faultWithin? : Nat → String → Option Fault
  | 0, _ => none
  | layers + 1, content =>
    let text := content.toList
    match (value (.value (faultWithin? layers)) nestingLimit text).bind ending with
    | .ok () => none
    | .error stop => some (stop.fault text)

/-- The fault of a text that is to be read as a value. A text is longer than one that it holds, so
that it has fewer levels than characters. -/
def fault? (content : String) : Option Fault :=
  faultWithin? (content.length + 1) content

/-! ## Values that have been read -/

def Found.ofTree : Tree → Found
  | .null => .null
  | .bool b => .bool b
  | .numeral n => .number n
  | .text pieces => .string ((Piece.text? pieces).getD "")
  | .array _ => .sequence
  | .object _ => .map

def embeddingStop? (whole : Bool) (rest : List Char) : List (List Piece × Tree) → Option Stop
  | [] => none
  | (_, .text pieces) :: more =>
    match (Piece.text? pieces).bind fault? with
    | some fault => some (.inside fault)
    | none =>
      -- a whole object may hold nothing besides
      if whole && !more.isEmpty then
        some (.here (.wrongLength (more.length + 1) "1 element in map") rest 0)
      else none
  | (_, t) :: _ => some (.here (.wrongType (Found.ofTree t) "raw value") rest 0)

mutual

def treeStop? (rest : List Char) : Tree → Option Stop
  | .null | .bool _ | .numeral _ | .text _ => none
  | .array items => itemsStop? rest items
  | .object members =>
    if Tree.isEmbedding members then embeddingStop? true rest members
    else membersStop? rest members

def itemsStop? (rest : List Char) : List Tree → Option Stop
  | [] => none
  | item :: more => treeStop? rest item <|> itemsStop? rest more

def membersStop? (rest : List Char) : List (List Piece × Tree) → Option Stop
  | [] => none
  | (_, item) :: more => treeStop? rest item <|> membersStop? rest more

end

end TraceQuery.Json.Inspect
