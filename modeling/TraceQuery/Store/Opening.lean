import TraceQuery.Config.Load

/-!
Whether the file that holds the spans can be opened. Its folder is made where there is none, and a
file that is absent or empty becomes a store without spans.
-/

set_option autoImplicit false
namespace TraceQuery.Store

open Config (File)

inductive FolderError
  | fileExists
  | notDirectory
  | nameTooLong
  | nul
  deriving DecidableEq, Repr

def FolderError.message : FolderError → String
  | .fileExists => "File exists (os error 17)"
  | .notDirectory => "Not a directory (os error 20)"
  | .nameTooLong => "File name too long (os error 36)"
  | .nul => "file name contained an unexpected NUL byte"

inductive FileError
  | nul
  | unreachable
  | waitTooLong
  | noStore
  deriving DecidableEq, Repr

namespace FileError

def message : FileError → String
  | .nul =>
    "error communicating with database: filename passed to SQLite must not contain nul bytes"
  | .unreachable => "error returned from database: (code: 14) unable to open database file"
  | .waitTooLong => "attempted to communicate with a crashed background worker"
  | .noStore => "error returned from database: (code: 26) file is not a database"

def cause? : FileError → Option String
  | .nul => some "filename passed to SQLite must not contain nul bytes"
  | .unreachable => some "(code: 14) unable to open database file"
  | .waitTooLong => none
  | .noStore => some "(code: 26) file is not a database"

end FileError

inductive OpenError
  | folder (path : String) (error : FolderError)
  | file (error : FileError)
  deriving DecidableEq, Repr

def OpenError.messages : OpenError → List String
  | .folder path error =>
    [s!"Failed to create database directory {path}: {error.message}", error.message]
  | .file error => s!"Database error: {error.message}" :: error.message :: error.cause?.toList

def nameLimit : Nat := 255 -- bytes

def pathLimit : Nat := 504 -- bytes

/-- A lock is waited for so many milliseconds at most. -/
def waitLimit : Nat := 2147483647

def header : String := "SQLite format 3\x00"

/-- Makes a folder and those above it, if something stands in the way of none of them. -/
def folderError? (files : String → File) (folder : String) : Option FolderError :=
  if folder.contains '\x00' then some .nul
  else
    match files folder with
    | .directory => none
    | .text _ | .damaged _ => some .fileExists
    | .absent =>
      match ((Path.ancestors folder).map files).find? (· != .absent) with
      | some (.text _) | some (.damaged _) => some .notDirectory
      | _ =>
        if (Path.parts folder).any (nameLimit < ·.utf8ByteSize) then some .nameTooLong else none

def isReachable (files : String → File) (path : String) : Bool :=
  let target := Path.normalized path
  files target != .directory && target.utf8ByteSize ≤ pathLimit &&
    (Path.parts target).all (·.utf8ByteSize ≤ nameLimit)

def hasHeader (start : String) : Bool :=
  header.toList.isPrefixOf start.toList

/-- A file is a store by its header, and becomes one if there is nothing in it. -/
def isStore (files : String → File) (path : String) : Bool :=
  match files (Path.normalized path) with
  | .absent | .directory => true
  | .text content => content.isEmpty || hasHeader content
  | .damaged start => hasHeader start

def fileError? (files : String → File) (s : Config.DatabaseSettings) : Option FileError :=
  if s.path.contains '\x00' then some .nul
  else if !isReachable files s.path then some .unreachable
  else if waitLimit < 1000 * s.busyTimeoutSecs.toNat then some .waitTooLong
  else if !isStore files s.path then some .noStore
  else none

def openError? (files : String → File) (s : Config.DatabaseSettings) : Option OpenError :=
  let folder := Path.parent? s.path
  match folder.bind fun path => (folderError? files path).map (.folder path) with
  | some e => some e
  | none => (fileError? files s).map .file

end TraceQuery.Store
