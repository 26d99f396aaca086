import TraceQuery.Json.Token

/-!
JSON texts as trees. A tree keeps numbers and strings as they are written, so that a part nobody
asks for is checked for its syntax alone. Nesting is not limited here: the containers that are
still open stand on a stack.
-/

set_option autoImplicit false
namespace TraceQuery.Json

inductive Tree
  | null
  | bool (b : Bool)
  | numeral (n : Numeral)
  | text (pieces : List Piece)
  | array (items : List Tree)
  | object (members : List (List Piece × Tree))

/-- A container that is still open, with what it holds so far, last first. -/
inductive Frame
  | array (items : List Tree)
  | object (members : List (List Piece × Tree)) (name : List Piece)

/-- What has been read of a text, as what may follow it. -/
inductive Parse
  | value (frames : List Frame)
  -- behind a left bracket or a left brace, where the container may end at once
  | firstItem (frames : List Frame)
  | firstKey (frames : List Frame)
  | key (members : List (List Piece × Tree)) (frames : List Frame)
  | colon (members : List (List Piece × Tree)) (name : List Piece) (frames : List Frame)
  | after (tree : Tree) (frames : List Frame)

namespace Parse

def start : Parse := .value []

def beginValue (frames : List Frame) : Token → Option Parse
  | .null => some (.after .null frames)
  | .bool b => some (.after (.bool b) frames)
  | .numeral n => some (.after (.numeral n) frames)
  | .text pieces => some (.after (.text pieces) frames)
  | .leftBracket => some (.firstItem frames)
  | .leftBrace => some (.firstKey frames)
  | _ => none

def step : Parse → Token → Option Parse
  | .value frames, t => beginValue frames t
  | .firstItem frames, .rightBracket => some (.after (.array []) frames)
  | .firstItem frames, t => beginValue (.array [] :: frames) t
  | .firstKey frames, .rightBrace => some (.after (.object []) frames)
  | .firstKey frames, .text name => some (.colon [] name frames)
  | .key members frames, .text name => some (.colon members name frames)
  | .colon members name frames, .colon => some (.value (.object members name :: frames))
  | .after tree (.array items :: frames), .comma => some (.value (.array (tree :: items) :: frames))
  | .after tree (.array items :: frames), .rightBracket =>
    some (.after (.array (tree :: items).reverse) frames)
  | .after tree (.object members name :: frames), .comma =>
    some (.key ((name, tree) :: members) frames)
  | .after tree (.object members name :: frames), .rightBrace =>
    some (.after (.object ((name, tree) :: members).reverse) frames)
  | _, _ => none

def run (p : Parse) : List Token → Option Parse
  | [] => some p
  | t :: rest =>
    match p.step t with
    | none => none
    | some p => run p rest

def finish? : Parse → Option Tree
  | .after tree [] => some tree
  | _ => none

end Parse

namespace Tree

def ofTokens? (tokens : List Token) : Option Tree :=
  (Parse.start.run tokens).bind Parse.finish?

def ofScalars? (text : List (Option Char)) : Option Tree :=
  (tokens? text).bind ofTokens?

def read? (text : String) : Option Tree :=
  ofScalars? (text.toList.map some)

end Tree

end TraceQuery.Json
