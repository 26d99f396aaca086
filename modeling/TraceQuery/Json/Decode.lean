import TraceQuery.Json.Tree
import TraceQuery.Json.Value
import TraceQuery.Word

/-!
What a tree says, as a value of some type. A decoder is given the number of containers that may
still be nested in the tree; what it does not ask for it does not look at.
-/

set_option autoImplicit false
namespace TraceQuery.Json

/-- The number of containers a text may nest, where they are looked at. -/
def nestingLimit : Nat := 127

namespace Piece

def isHighSurrogate (code : Nat) : Bool := 0xD800 ≤ code && code < 0xDC00

def isLowSurrogate (code : Nat) : Bool := 0xDC00 ≤ code && code < 0xE000

/-- The characters of a written string; surrogates have to come in pairs. -/
def chars? (done : List Char) : List Piece → Option (List Char)
  | [] => some done.reverse
  | .char c :: rest => chars? (c :: done) rest
  | .stray :: _ => none
  | [.unit code] =>
    if isHighSurrogate code || isLowSurrogate code then none
    else some (Char.ofNat code :: done).reverse
  | .unit code :: next :: rest =>
    if isHighSurrogate code then
      match next with
      | .unit low =>
        if isLowSurrogate low then
          chars? (Char.ofNat (0x10000 + (code - 0xD800) * 0x400 + (low - 0xDC00)) :: done) rest
        else none
      | _ => none
    else if isLowSurrogate code then none
    else chars? (Char.ofNat code :: done) (next :: rest)

def text? (pieces : List Piece) : Option String :=
  (chars? [] pieces).map String.ofList

end Piece

def embeddedKey : String := "$serde_json::private::RawValue"

namespace Tree

/-- Only the first key of an object is asked whether the object stands for another value. -/
def isEmbedding : List (List Piece × Tree) → Bool
  | (key, _) :: _ => Piece.text? key == some embeddedKey
  | [] => false

def embeddedText? : List (List Piece × Tree) → Option String
  | [(_, .text pieces)] => Piece.text? pieces
  | _ => none

mutual

def valueWith? (read? : String → Option Json) (depth : Nat) : Tree → Option Json
  | .null => some .null
  | .bool b => some (.bool b)
  | .numeral n => n.value?.map .number
  | .text pieces => (Piece.text? pieces).map .string
  | .array items =>
    match depth with
    | 0 => none
    | depth + 1 => (itemsWith? read? depth items).map .array
  | .object members =>
    match depth with
    | 0 => none
    | depth + 1 =>
      if isEmbedding members then (embeddedText? members).bind read?
      else (membersWith? read? depth [] members).map .object

def itemsWith? (read? : String → Option Json) (depth : Nat) : List Tree → Option (List Json)
  | [] => some []
  | item :: rest =>
    match valueWith? read? depth item with
    | none => none
    | some v => (itemsWith? read? depth rest).map (v :: ·)

def membersWith? (read? : String → Option Json) (depth : Nat) (done : List (String × Json)) :
    List (List Piece × Tree) → Option (List (String × Json))
  | [] => some done
  | (key, item) :: rest =>
    match Piece.text? key, valueWith? read? depth item with
    | some k, some v => membersWith? read? depth (insert done k v) rest
    | _, _ => none

end

/-- The value of a text that may hold so many others, one in the other. Each may nest as deep as a
text of its own. -/
def embeddedWithin? : Nat → String → Option Json
  | 0, _ => none
  | layers + 1, content =>
    (read? content).bind (valueWith? (embeddedWithin? layers) nestingLimit)

/-- A text is longer than one that it holds, so it holds fewer than it has characters. -/
def embedded? (content : String) : Option Json :=
  embeddedWithin? content.length content

def value? (depth : Nat) (t : Tree) : Option Json :=
  valueWith? embedded? depth t

def members? (depth : Nat) (members : List (List Piece × Tree)) : Option (List (String × Json)) :=
  membersWith? embedded? depth [] members

mutual

def isSound (depth : Nat) : Tree → Bool
  | .null | .bool _ => true
  | .numeral n => n.value?.isSome
  | .text pieces => (Piece.text? pieces).isSome
  | .array items =>
    match depth with
    | 0 => false
    | depth + 1 => areSound depth items
  | .object members =>
    match depth with
    | 0 => false
    | depth + 1 => membersAreSound depth members

def areSound (depth : Nat) : List Tree → Bool
  | [] => true
  | item :: rest => isSound depth item && areSound depth rest

def membersAreSound (depth : Nat) : List (List Piece × Tree) → Bool
  | [] => true
  | (key, item) :: rest =>
    (Piece.text? key).isSome && isSound depth item && membersAreSound depth rest

end

end Tree

def Decoder (α : Type) := Nat → Tree → Option α

namespace Decoder

def decode? {α : Type} (d : Decoder α) (t : Tree) : Option α :=
  d nestingLimit t

def read? {α : Type} (d : Decoder α) (text : String) : Option α :=
  (Tree.read? text).bind d.decode?

def string : Decoder String
  | _, .text pieces => Piece.text? pieces
  | _, _ => none

def int : Decoder Int
  | _, .numeral n =>
    match n.value? with
    | some (.integer value _) => some value
    | _ => none
  | _, _ => none

def uint32 : Decoder UInt32 := fun depth t => (int depth t).bind Word.uint32?

def uint64 : Decoder UInt64 := fun depth t => (int depth t).bind Word.uint64?

def int32 : Decoder Int32 := fun depth t => (int depth t).bind Word.int32?

def float : Decoder Float
  | _, .numeral n => n.value?.map Number.toFloat
  | _, _ => none

def option {α : Type} (d : Decoder α) : Decoder (Option α)
  | _, .null => some none
  | depth, t => (d depth t).map some

def list {α : Type} (d : Decoder α) : Decoder (List α)
  | depth + 1, .array items => items.mapM (d depth)
  | _, _ => none

def members : Decoder (List (String × Json))
  | depth + 1, .object ms => Tree.members? depth ms
  | _, _ => none

/-- One of several names, or an object that has it as its only key, with null as the value. -/
def oneOf {α : Type} (name? : String → Option α) : Decoder α
  | _, .text pieces => (Piece.text? pieces).bind name?
  | _ + 1, .object [(key, .null)] => (Piece.text? key).bind name?
  | _, _ => none

structure Fields where
  /-- The record was written as an array, which leaves out fields at its end only. -/
  positional : Bool
  depth : Nat
  found : List (String × Tree)

namespace Fields

def collect? (names : List String) (found : List (String × Tree)) :
    List (List Piece × Tree) → Option (List (String × Tree))
  | [] => some found
  | (key, t) :: rest =>
    match Piece.text? key with
    | none => none
    | some k =>
      if k ∈ names then
        -- no known name may come twice
        if (found.lookup k).isSome then none else collect? names ((k, t) :: found) rest
      else collect? names found rest

/-- A record is an object, or an array of its fields in their order. -/
def ofTree? (names : List String) : Nat → Tree → Option Fields
  | depth + 1, .object members => (collect? names [] members).map (⟨false, depth, ·⟩)
  | depth + 1, .array items =>
    if items.length ≤ names.length then some ⟨true, depth, names.zip items⟩ else none
  | _, _ => none

def required {α : Type} (f : Fields) (name : String) (d : Decoder α) : Option α :=
  match f.found.lookup name with
  | some t => d f.depth t
  | none => none

def nullable {α : Type} (f : Fields) (name : String) (d : Decoder α) : Option (Option α) :=
  match f.found.lookup name with
  | some t => option d f.depth t
  -- an array leaves out nothing but what has a default
  | none => if f.positional then none else some none

def defaulted {α : Type} (f : Fields) (name : String) (d : Decoder α) (absent : α) : Option α :=
  match f.found.lookup name with
  | some t => d f.depth t
  | none => some absent

end Fields

def record {α : Type} (names : List String) (build : Fields → Option α) : Decoder α :=
  fun depth t => (Fields.ofTree? names depth t).bind build

end Decoder

end TraceQuery.Json
