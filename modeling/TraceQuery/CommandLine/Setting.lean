import TraceQuery.CommandLine.Timestamp
import TraceQuery.Config.Load

/-! The options of the command line, and how the text of each is read. -/

set_option autoImplicit false
namespace TraceQuery.CommandLine

inductive UsageError
  | valueValidation (message : String)
  | invalidValue
  | unknownArgument
  | invalidSubcommand
  | argumentConflict
  | missingRequiredArgument
  | missingSubcommand
  | tooManyValues
  | help
  /-- Nothing was given, and help is shown instead of an error. -/
  | helpForNothing
  | version
  deriving DecidableEq, Repr

inductive Opt
  | config
  | dbPath
  | maxConnections
  | defaultPageSize
  | maxPageSize
  | timeoutSecs
  | cursorPolicy
  | maxTagValues
  | filters
  | start
  | stop
  | sort
  | direction
  | cursor
  | limit
  deriving DecidableEq, Repr

inductive Setting
  | config (path : String)
  | dbPath (path : String)
  | maxConnections (n : UInt32)
  | defaultPageSize (n : UInt32)
  | maxPageSize (n : UInt32)
  | timeoutSecs (n : UInt64)
  | cursorPolicy (policy : CursorPolicy)
  | maxTagValues (n : UInt32)
  | filters (text : String)
  | start (time : UInt64)
  | stop (time : UInt64)
  | sort (field : String)
  | direction (direction : SortDirection)
  | cursor (token : String)
  | limit (n : UInt32)
  deriving DecidableEq, Repr

def Setting.opt : Setting → Opt
  | .config _ => .config
  | .dbPath _ => .dbPath
  | .maxConnections _ => .maxConnections
  | .defaultPageSize _ => .defaultPageSize
  | .maxPageSize _ => .maxPageSize
  | .timeoutSecs _ => .timeoutSecs
  | .cursorPolicy _ => .cursorPolicy
  | .maxTagValues _ => .maxTagValues
  | .filters _ => .filters
  | .start _ => .start
  | .stop _ => .stop
  | .sort _ => .sort
  | .direction _ => .direction
  | .cursor _ => .cursor
  | .limit _ => .limit

def digits (limit : Nat) (tooFar : String) : Nat → List Char → Except String Nat
  | n, [] => .ok n
  | n, c :: rest =>
    if c.isDigit then
      let next := 10 * n + (c.toNat - '0'.toNat)
      if limit < next then .error tooFar else digits limit tooFar next rest
    else .error "invalid digit found in string"

def tooLarge : String := "number too large to fit in target type"
def tooSmall : String := "number too small to fit in target type"

/-- A whole number of at most `most`, and of at least `-least` where a minus sign is read. -/
def integer (signed : Bool) (least most : Nat) (text : String) : Except String Int :=
  match text.toList with
  | [] => .error "cannot parse integer from empty string"
  | ['+'] | ['-'] => .error "invalid digit found in string"
  | '+' :: rest => (digits most tooLarge 0 rest).map Int.ofNat
  | '-' :: rest =>
    if signed then (digits least tooSmall 0 rest).map fun n => -Int.ofNat n
    else .error "invalid digit found in string"
  | all => (digits most tooLarge 0 all).map Int.ofNat

def uint32 (text : String) : Except String UInt32 := do
  let n ← integer true Int64.minValue.toInt.natAbs Int64.maxValue.toInt.natAbs text
  match Word.uint32? n with
  | some w => return w
  | none => .error s!"{n} is not in 0..=4294967295"

def uint64 (text : String) : Except String UInt64 := do
  let n ← integer false 0 (UInt64.size - 1) text
  return UInt64.ofNat n.toNat

def cursorPolicy (text : String) : Except String CursorPolicy :=
  let word := text.map fun c => if c = '-' then '_' else c.toLower
  match CursorPolicy.ofName? word with
  | some policy => .ok policy
  | none => .error s!"Invalid cursor policy '{text}'. Valid options: any-rows, full-page"

def direction (text : String) : Except String SortDirection :=
  match SortDirection.ofName? (text.map Char.toLower) with
  | some d => .ok d
  | none => .error s!"Invalid sort direction '{text}'. Valid options: asc, desc"

def path (text : String) : Except UsageError String :=
  if text = "" then .error .invalidValue else .ok text

namespace Opt

def validated {α : Type} (make : α → Setting) (value : Except String α) :
    Except UsageError Setting :=
  match value with
  | .ok a => .ok (make a)
  | .error message => .error (.valueValidation message)

def read (o : Opt) (text : String) : Except UsageError Setting :=
  match o with
  | .config => (path text).map .config
  | .dbPath => (path text).map .dbPath
  | .maxConnections => validated .maxConnections (uint32 text)
  | .defaultPageSize => validated .defaultPageSize (uint32 text)
  | .maxPageSize => validated .maxPageSize (uint32 text)
  | .timeoutSecs => validated .timeoutSecs (uint64 text)
  | .cursorPolicy => validated .cursorPolicy (CommandLine.cursorPolicy text)
  | .maxTagValues => validated .maxTagValues (uint32 text)
  | .filters => .ok (.filters text)
  | .start => validated .start (Timestamp.read text)
  | .stop => validated .stop (Timestamp.read text)
  | .sort => .ok (.sort text)
  | .direction => validated .direction (CommandLine.direction text)
  | .cursor => .ok (.cursor text)
  | .limit => validated .limit (uint32 text)

def longName : Opt → String
  | .config => "config"
  | .dbPath => "db-path"
  | .maxConnections => "max-connections"
  | .defaultPageSize => "default-page-size"
  | .maxPageSize => "max-page-size"
  | .timeoutSecs => "timeout-secs"
  | .cursorPolicy => "cursor-policy"
  | .maxTagValues => "max-tag-values"
  | .filters => "filters"
  | .start => "from"
  | .stop => "to"
  | .sort => "sort"
  | .direction => "direction"
  | .cursor => "cursor"
  | .limit => "limit"

def shortName? : Opt → Option Char
  | .config => some 'c'
  | .limit => some 'n'
  | _ => none

/-- The variable that stands in for an option that is not given. -/
def environmentName? : Opt → Option String
  | .config => some "SPANQUERY_CONFIG"
  | .dbPath => some "SPANQUERY_DB_PATH"
  | .maxConnections => some "SPANQUERY_DB_MAX_CONNECTIONS"
  | .defaultPageSize => some "SPANQUERY_DEFAULT_PAGE_SIZE"
  | .maxPageSize => some "SPANQUERY_MAX_PAGE_SIZE"
  | .timeoutSecs => some "SPANQUERY_QUERY_TIMEOUT_SECS"
  | .cursorPolicy => some "SPANQUERY_CURSOR_POLICY"
  | .maxTagValues => some "SPANQUERY_MAX_TAG_VALUES"
  | _ => none

def everywhere : List Opt :=
  [.config, .dbPath, .maxConnections, .defaultPageSize, .maxPageSize, .timeoutSecs, .cursorPolicy,
    .maxTagValues]

end Opt

end TraceQuery.CommandLine
