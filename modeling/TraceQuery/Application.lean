import TraceQuery.CommandLine.Parse
import TraceQuery.CommandLine.Variables
import TraceQuery.Filter.Document
import TraceQuery.Store.Opening
import TraceQuery.Wire.Tag

/-!
The program: it reads its arguments and its configuration, asks the reader once, and prints the
answer as JSON.
-/

set_option autoImplicit false
namespace TraceQuery.Application

open CommandLine (Command Invocation Scope UsageError)

def version : String := "spanquery 0.1.0"

structure Surroundings where
  directories : Path.Directories
  environment : String → Option String
  files : String → Config.File

/-- What the program leaves behind: text on standard output, and an error for the caller to see. -/
structure Result where
  exitCode : Nat
  output : String
  error : Option String
  deriving DecidableEq, Repr

namespace Result

def printed (v : Json) : Result := ⟨0, v.pretty ++ "\n", none⟩

def failed (messages : List String) : Result :=
  ⟨1, "", some (String.intercalate ": " messages)⟩

def crashed : Result := ⟨101, "", none⟩

end Result

def usage : UsageError → Result
  | .version => ⟨0, version ++ "\n", none⟩
  | .help => ⟨0, "", none⟩
  | _ => ⟨2, "", none⟩

def answer {α : Type} (context : String) (toJson : α → Json) : Outcome α → Result
  | .returned (.ok a) => .printed (toJson a)
  | .returned (.error e) => .failed (context :: e.message :: e.cause?.toList)
  -- nothing is printed by a program that waits or has no clock to wait by
  | .unending | .noDeadline => .crashed

def timeframe (scope : Scope) : Option Timeframe :=
  if scope.start.isSome ∨ scope.stop.isSome then some ⟨scope.start, scope.stop⟩ else none

/-- Goes on with the filters of a scope, of which there are none if no text was given. -/
def withFilters (scope : Scope) (next : List SearchFilter → Result) : Result :=
  match scope.filters with
  | none => next []
  | some text =>
    match FilterDocument.read text with
    | .error e => .failed ["Invalid --filters", e.message]
    | .ok filters => next filters

def searchRequest (scope : Scope) (filters : List SearchFilter) (sort : Option String)
    (direction : SortDirection) (cursor : Option String) (limit : Option UInt32) :
    SearchRequest :=
  { filters
    timeframe := timeframe scope
    sort := some ⟨sort.getD SortField.standard.name, direction⟩
    nextToken := cursor.map PageToken.mk
    limit }

def execute {σ : Type} (reader : SpanReader) (executor : Executor σ) (s : Session σ) :
    Command → Result
  | .search scope sort direction cursor limit =>
    withFilters scope fun filters =>
      let request := searchRequest scope filters sort direction cursor limit
      answer "Span search failed" SpanPage.toJson (reader.search executor request s).1
  | .tags => answer "Listing tags failed" TagInfo.listToJson (reader.tags executor s).1
  | .tagValues tags scope =>
    withFilters scope fun filters =>
      let request : TagValuesRequest := ⟨filters, timeframe scope⟩
      match tags with
      | [tag] =>
        answer s!"Fetching values of '{tag}' failed" TagValues.toJson
          (reader.tagValues executor request tag s).1
      | tags =>
        answer "Fetching tag values failed" TagValues.mapToJson
          (reader.tagsValues executor request tags s).1

/-- The places of a file of variables; the first that is a file is read. -/
def variableFiles (dirs : Path.Directories) : List String :=
  (Path.ancestors dirs.working).map (Path.join · ".env")

def configFiles (dirs : Path.Directories) (invocation : Invocation) : List String :=
  [Config.profilePath dirs, Config.overlayPath dirs invocation.overrides.config]

def storeFiles (settings : Config.DatabaseSettings) : List String :=
  let folders := match Path.parent? settings.path with
    | none => []
    | some folder => folder :: Path.ancestors folder
  Path.normalized settings.path :: folders

namespace Surroundings

def variableText (found : Surroundings) : String :=
  (((variableFiles found.directories).map found.files).findSome? Config.File.lines?).getD ""

def assigned (found : Surroundings) : List (String × String) :=
  Variables.read found.environment found.variableText

end Surroundings

def run {σ : Type} (found : Surroundings) (executor : Executor σ) (store : σ) (now : Nat)
    (args : List String) : Result :=
  let assigned := found.assigned
  if !Variables.admissible found.environment assigned then .crashed
  else
    match CommandLine.parse (Variables.behind found.environment assigned) args with
    | .error e => usage e
    | .ok invocation =>
      match (Config.load found.directories found.files invocation.overrides).result with
      | .error e => .failed (e.message :: e.cause?.toList)
      | .ok settings =>
        match Store.openError? found.files settings.database with
        | some e =>
          .failed (s!"Failed to open span database: {settings.database.path}" :: e.messages)
        | none =>
          execute ⟨.standard, settings.query⟩ executor (.start store .fresh now)
            invocation.command

end TraceQuery.Application
