import TraceQuery.Config.File
import TraceQuery.Config.Inspect
import TraceQuery.Config.Path
import TraceQuery.Reader.Basic

/-!
The configuration of the program. A setting has the value of the first layer that sets it: the
command line, then the file in use, then the file in the home directory, then the default.
-/

set_option autoImplicit false
namespace TraceQuery.Config

structure Overrides where
  config : Option String
  dbPath : Option String
  maxConnections : Option UInt32
  defaultPageSize : Option UInt32
  maxPageSize : Option UInt32
  timeoutSecs : Option UInt64
  cursorPolicy : Option CursorPolicy
  maxTagValues : Option UInt32
  deriving DecidableEq, Repr

namespace Overrides

def none : Overrides :=
  ⟨.none, .none, .none, .none, .none, .none, .none, .none⟩

def database (o : Overrides) : DatabaseLayer :=
  { path := o.dbPath, maxConnections := o.maxConnections, busyTimeoutSecs := .none }

def query (o : Overrides) : QueryLayer :=
  { defaultPageSize := o.defaultPageSize
    maxPageSize := o.maxPageSize
    timeoutSecs := o.timeoutSecs
    cursorPolicy := o.cursorPolicy
    maxTagValues := o.maxTagValues }

end Overrides

structure DatabaseSettings where
  path : String
  maxConnections : UInt32
  busyTimeoutSecs : UInt64
  deriving DecidableEq, Repr

structure Settings where
  database : DatabaseSettings
  query : QuerySettings
  deriving DecidableEq, Repr

def folderName : String := ".spanquery"
def fileName : String := "spanquery.json"
def databaseName : String := "spans.db"

def profilePath (dirs : Path.Directories) : String :=
  Path.join (Path.join dirs.home folderName) fileName

def standardDatabasePath (dirs : Path.Directories) : String :=
  Path.join (Path.join dirs.home folderName) databaseName

def standardMaxConnections : UInt32 := 4
def standardBusyTimeoutSecs : UInt64 := 5

inductive Failure
  | notFound (path : String)
  | unreadable (path : String) (error : AccessError)
  | malformed (path : String) (fault : Option Json.Fault)
  | noConnections
  | noPage
  | noDefaultPage
  | defaultExceedsMax (defaultSize maxSize : UInt32)
  | noTagValues
  deriving DecidableEq, Repr

def Failure.message : Failure → String
  | .notFound path => s!"Config file not found: {path}"
  | .unreadable path _ => s!"Failed to read config file: {path}"
  | .malformed path _ => s!"Failed to parse config file: {path}"
  | .noConnections => "Configuration error: database.max_connections must be greater than 0"
  | .noPage => "Configuration error: query.max_page_size must be greater than 0"
  | .noDefaultPage => "Configuration error: query.default_page_size must be greater than 0"
  | .defaultExceedsMax defaultSize maxSize =>
    s!"Configuration error: query.default_page_size ({defaultSize.toNat}) exceeds " ++
      s!"query.max_page_size ({maxSize.toNat})"
  | .noTagValues => "Configuration error: query.max_tag_values must be greater than 0"

def Failure.cause? : Failure → Option String
  | .unreadable _ error => some error.message
  | .malformed _ fault => fault.map Json.Fault.message
  | .notFound _ | .noConnections | .noPage | .noDefaultPage | .defaultExceedsMax _ _
  | .noTagValues => none

structure UnknownKeys where
  keys : List String
  deriving DecidableEq, Repr

namespace UnknownKeys

def message : String := "Unknown fields in config file (possible typos)"

def fields (u : UnknownKeys) : List (String × String) :=
  [("fields", Sql.joined ", " u.keys)]

end UnknownKeys

/-- The warnings given on the way, and how loading ends. -/
structure Loading (α : Type) where
  warnings : List UnknownKeys
  result : Except Failure α

def Loading.andThen {α β : Type} (l : Loading α) (next : α → Loading β) : Loading β :=
  match l.result with
  | .error e => ⟨l.warnings, .error e⟩
  | .ok a =>
    let after := next a
    ⟨l.warnings ++ after.warnings, after.result⟩

def readLayer (path : String) (file : File) : Except Failure FileLayer :=
  match file.read with
  | .error e => .error (.unreadable path e)
  | .ok content =>
    match FileLayer.decoder.read? content with
    | none => .error (.malformed path (Inspect.fault? content))
    | some layer => .ok layer

def layFile (lower : FileLayer) (path : String) (file : File) : Loading FileLayer :=
  match readLayer path file with
  | .error e => ⟨[], .error e⟩
  | .ok layer =>
    ⟨if layer.unknown.isEmpty then [] else [⟨layer.unknown⟩], .ok (layer.orElse lower)⟩

def layFileIfAny (lower : FileLayer) (path : String) (file : File) : Loading FileLayer :=
  match file with
  | .absent => ⟨[], .ok lower⟩
  | file => layFile lower path file

/-- The file in use: the one named on the command line, or else the one in the working directory. -/
def overlayPath (dirs : Path.Directories) (config : Option String) : String :=
  match config with
  | none => fileName
  | some path => Path.expand dirs path

/-- A file named on the command line has to exist. -/
def layOverlay (dirs : Path.Directories) (files : String → File) (config : Option String)
    (lower : FileLayer) : Loading FileLayer :=
  let path := overlayPath dirs config
  match config, files path with
  | none, file => layFileIfAny lower path file
  | some _, .absent => ⟨[], .error (.notFound path)⟩
  | some _, file => layFile lower path file

def resolve (dirs : Path.Directories) (o : Overrides) (file : FileLayer) : Settings :=
  let database := o.database.orElse (file.database.getD .empty)
  let query := o.query.orElse (file.query.getD .empty)
  { database :=
      { path := (database.path.map (Path.expand dirs)).getD (standardDatabasePath dirs)
        maxConnections := database.maxConnections.getD standardMaxConnections
        busyTimeoutSecs := database.busyTimeoutSecs.getD standardBusyTimeoutSecs }
    query :=
      { defaultPageSize := query.defaultPageSize.getD QuerySettings.standard.defaultPageSize
        maxPageSize := query.maxPageSize.getD QuerySettings.standard.maxPageSize
        timeoutSecs := query.timeoutSecs.getD QuerySettings.standard.timeoutSecs
        cursorPolicy := query.cursorPolicy.getD QuerySettings.standard.cursorPolicy
        maxTagValues := query.maxTagValues } }

def Settings.validate (s : Settings) : Except Failure Settings :=
  if s.database.maxConnections = 0 then .error .noConnections
  else if s.query.maxPageSize = 0 then .error .noPage
  else if s.query.defaultPageSize = 0 then .error .noDefaultPage
  else if s.query.maxPageSize < s.query.defaultPageSize then
    .error (.defaultExceedsMax s.query.defaultPageSize s.query.maxPageSize)
  else if s.query.maxTagValues = some 0 then .error .noTagValues
  else .ok s

def load (dirs : Path.Directories) (files : String → File) (o : Overrides) : Loading Settings :=
  (layFileIfAny .empty (profilePath dirs) (files (profilePath dirs))).andThen fun profile =>
    (layOverlay dirs files o.config profile).andThen fun layers =>
      ⟨[], (resolve dirs o layers).validate⟩

end TraceQuery.Config
