import TraceQuery.Text.Blank

/-! Paths as texts: joining, and expansion against the home and the working directory. -/

set_option autoImplicit false
namespace TraceQuery.Path

def isAbsolute (path : String) : Bool :=
  path.toList.head? == some '/'

/-- An absolute path takes the place of the base; no part is ever removed. -/
def join (base path : String) : String :=
  if isAbsolute path then path
  else if base = "" ∨ base.toList.getLast? = some '/' then base ++ path
  else base ++ "/" ++ path

def parts (path : String) : List String :=
  ((path.toList.splitOn '/').filter (!·.isEmpty)).map String.ofList

def ofParts (parts : List String) : String :=
  "/" ++ String.intercalate "/" parts

def ancestors (directory : String) : List String :=
  let parts := parts directory
  -- the directory itself first, the root last
  (List.range (parts.length + 1)).reverse.map fun n => ofParts (parts.take n)

/-- Drops slashes at the end of a path, and parts that stand for the same directory; the path is
given last character first. -/
def trimmed : List Char → List Char
  | '/' :: rest => trimmed rest
  | '.' :: '/' :: rest => trimmed rest
  | cs => cs

def parent? (path : String) : Option String :=
  match trimmed path.toList.reverse with
  | [] => none
  | cs => some ("/" ++ String.ofList ((trimmed (cs.dropWhile (· != '/'))).reverse.drop 1))

def walked (done : List String) : List String → List String
  | [] => done.reverse
  | part :: rest =>
    if part = "." then walked done rest
    -- at the root a step back leads nowhere
    else if part = ".." then walked (done.drop 1) rest
    else walked (part :: done) rest

def normalized (path : String) : String :=
  ofParts (walked [] (parts path))

structure Directories where
  home : String
  working : String
  deriving DecidableEq, Repr

/-- A leading tilde, alone or before a slash, stands for the home directory. -/
def withHome (home : String) (path : String) : String :=
  match path.toList with
  | ['~'] => home
  | '~' :: '/' :: rest => join home (String.ofList rest)
  | _ => path

def expand (dirs : Directories) (path : String) : String :=
  let expanded := withHome dirs.home (Text.trim path)
  if isAbsolute expanded then expanded else join dirs.working expanded

end TraceQuery.Path
