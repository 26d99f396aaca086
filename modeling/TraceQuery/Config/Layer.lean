import TraceQuery.Json.Decode
import TraceQuery.Span.Cursor
import TraceQuery.Wire.Request

/-! One layer of configuration: what a configuration file or the command line sets, and no more. -/

set_option autoImplicit false
namespace TraceQuery.Config

open Json (Decoder)
open Json.Decoder (record)

structure DatabaseLayer where
  path : Option String
  maxConnections : Option UInt32
  busyTimeoutSecs : Option UInt64
  deriving DecidableEq, Repr

structure QueryLayer where
  defaultPageSize : Option UInt32
  maxPageSize : Option UInt32
  timeoutSecs : Option UInt64
  cursorPolicy : Option CursorPolicy
  maxTagValues : Option UInt32
  deriving DecidableEq, Repr

namespace DatabaseLayer

def empty : DatabaseLayer := ⟨none, none, none⟩

/-- What the upper layer sets takes the place of what the lower one does. -/
def orElse (upper lower : DatabaseLayer) : DatabaseLayer :=
  { path := upper.path <|> lower.path
    maxConnections := upper.maxConnections <|> lower.maxConnections
    busyTimeoutSecs := upper.busyTimeoutSecs <|> lower.busyTimeoutSecs }

def decoder : Decoder DatabaseLayer :=
  record ["path", "max_connections", "busy_timeout_secs"] fun f => do
    let path ← f.nullable "path" .string
    let maxConnections ← f.nullable "max_connections" .uint32
    let busyTimeoutSecs ← f.nullable "busy_timeout_secs" .uint64
    return { path, maxConnections, busyTimeoutSecs }

end DatabaseLayer

namespace QueryLayer

def empty : QueryLayer := ⟨none, none, none, none, none⟩

def orElse (upper lower : QueryLayer) : QueryLayer :=
  { defaultPageSize := upper.defaultPageSize <|> lower.defaultPageSize
    maxPageSize := upper.maxPageSize <|> lower.maxPageSize
    timeoutSecs := upper.timeoutSecs <|> lower.timeoutSecs
    cursorPolicy := upper.cursorPolicy <|> lower.cursorPolicy
    maxTagValues := upper.maxTagValues <|> lower.maxTagValues }

def decoder : Decoder QueryLayer :=
  let names :=
    ["default_page_size", "max_page_size", "timeout_secs", "cursor_policy", "max_tag_values"]
  record names fun f => do
    let defaultPageSize ← f.nullable "default_page_size" .uint32
    let maxPageSize ← f.nullable "max_page_size" .uint32
    let timeoutSecs ← f.nullable "timeout_secs" .uint64
    let cursorPolicy ← f.nullable "cursor_policy" (.oneOf CursorPolicy.ofName?)
    let maxTagValues ← f.nullable "max_tag_values" .uint32
    return { defaultPageSize, maxPageSize, timeoutSecs, cursorPolicy, maxTagValues }

end QueryLayer

structure FileLayer where
  database : Option DatabaseLayer
  query : Option QueryLayer
  -- each key once
  unknown : List String
  deriving DecidableEq, Repr

namespace FileLayer

def empty : FileLayer := ⟨none, none, []⟩

def sectionOrElse {α : Type} (orElse : α → α → α) : Option α → Option α → Option α
  | none, lower => lower
  | some upper, none => some upper
  | some upper, some lower => some (orElse upper lower)

def orElse (upper lower : FileLayer) : FileLayer :=
  { database := sectionOrElse DatabaseLayer.orElse upper.database lower.database
    query := sectionOrElse QueryLayer.orElse upper.query lower.query
    unknown := lower.unknown }

def sectionNames : List String := ["database", "query"]

def others (members : List (List Json.Piece × Json.Tree)) : List (List Json.Piece × Json.Tree) :=
  members.filter fun (key, _) => (Json.Piece.text? key).all (· ∉ sectionNames)

/-- The value of the members that are no sections. They are taken for an object by themselves; if
it stands for a value written as a text, no more is asked of the members behind the text. -/
def othersValue? (depth : Nat) (members : List (List Json.Piece × Json.Tree)) : Option Json :=
  if Json.Tree.isEmbedding members then
    if Json.Tree.membersAreSound depth members then
      (Json.Tree.embeddedText? (members.take 1)).bind Json.Tree.embedded?
    else none
  else (Json.Tree.members? depth members).map .object

def keys : Json → List String
  | .object members => members.map (·.1)
  | _ => []

/-- Only an object is a configuration file; its sections may be arrays. -/
def decoder : Decoder FileLayer
  | depth + 1, .object members => do
    let found ← Decoder.Fields.collect? sectionNames [] members
    let fields : Decoder.Fields := ⟨false, depth, found⟩
    let database ← fields.nullable "database" DatabaseLayer.decoder
    let query ← fields.nullable "query" QueryLayer.decoder
    let rest ← othersValue? depth (others members)
    return { database, query, unknown := keys rest }
  | _, _ => none

end FileLayer

end TraceQuery.Config
