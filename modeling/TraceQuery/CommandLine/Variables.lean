import TraceQuery.Text.Alphanumeric
import TraceQuery.Text.Blank

/-!
Files of variables, one assignment an entry. An entry is a line, and the lines after it as long as
quotes are open. Reading ends at the first entry that is neither an assignment nor blank nor a
comment; of two assignments the earlier holds.
-/

set_option autoImplicit false
namespace TraceQuery.Variables

/-! ## Entries -/

inductive Place
  | plain
  | afterBlank
  | escaped
  | single
  | singleEscaped
  | double
  | doubleEscaped
  deriving DecidableEq, Repr

namespace Place

def opened (c : Char) : Place :=
  if c = '\\' then .escaped
  else if c = '\'' then .single
  else if c = '"' then .double
  else if Text.isBlank c && c != '\n' && c != '\r' then .afterBlank
  else .plain

/-- The place behind a character, unless the character begins a comment: only a first blank makes
room for one. -/
def next? : Place → Char → Option Place
  | .plain, c => some (opened c)
  | .afterBlank, c =>
    if c = '#' then none
    else if Text.isBlank c then some .plain
    else some (opened c)
  | .escaped, _ => some .plain
  | .single, c =>
    some (if c = '\'' then .plain else if c = '\\' then .singleEscaped else .single)
  | .singleEscaped, _ => some .single
  | .double, c =>
    some (if c = '"' then .plain else if c = '\\' then .doubleEscaped else .double)
  | .doubleEscaped, _ => some .double

end Place

def beforeComment (done : List Char) (place : Place) : List Char → List Char × Place
  | [] => (done, place)
  | c :: rest =>
    match place.next? c with
    -- a comment leaves nothing open
    | none => (done, .plain)
    | some next => beforeComment (c :: done) next rest

def lines : List Char → List (List Char)
  | [] => []
  | c :: rest =>
    if c = '\n' then [c] :: lines rest
    else
      match lines rest with
      | [] => [[c]]
      | line :: others => (c :: line) :: others

def skipBlanks (cs : List Char) : List Char :=
  Text.trimStart cs

def isComment (line : List Char) : Bool :=
  (skipBlanks line).head? == some '#'

/-- The entries of a text from its lines, given the part of an entry that is still open, last
character first. One that is open at the end of the text is none. -/
def entries (pending : List Char) (place : Place) : List (List Char) → List (List Char)
  | [] => []
  | line :: rest =>
    if pending.isEmpty && isComment line then entries [] .plain rest
    else
      let (done, last) := beforeComment pending place line
      if last = .plain then done.reverse :: entries [] .plain rest
      else entries done last rest

/-! ## Assignments -/

def startsName (c : Char) : Bool :=
  c.isAlpha || c == '_'

def isNameChar (c : Char) : Bool :=
  c.isAlphanum || c == '_' || c == '.'

def name? : List Char → Option (String × List Char)
  | [] => none
  | c :: rest =>
    if startsName c then
      some (String.ofList (c :: rest.takeWhile isNameChar),
        skipBlanks (rest.dropWhile isNameChar))
    else none

inductive Part
  | text
  | escape
  | literal
  | name (name : List Char)
  | bracedName (name : List Char)
  deriving DecidableEq, Repr

def unescape? (c : Char) : Option Char :=
  if c = '\\' ∨ c = '\'' ∨ c = '"' ∨ c = '$' ∨ c = ' ' then some c
  else if c = 'n' then some '\n'
  else none

def isTail : List Char → Bool
  | [] => true
  | c :: rest => if c = ' ' ∨ c = '\t' then isTail rest else c == '#'

/-- What a name stands for. An environment holds each variable as one text, the equals sign behind
its name included, and a name stands for the rest of a text that begins with it and an equals sign.
So a name may take in an equals sign and the beginning of a value. -/
def valueOf? (present : String → Option String) (name : List Char) : Option (List Char) :=
  let owner := name.takeWhile (· != '=')
  (present (String.ofList owner)).bind fun value =>
    (name ++ ['=']).isPrefixOf? (owner ++ '=' :: value.toList)

def substitute (present : String → Option String) (name done : List Char) : List Char :=
  ((valueOf? present name.reverse).getD []).reverse ++ done

/-- A value may stand in quotes, in whole or in part; outside of them it ends at a blank. A dollar
sign brings in the value of a variable, and the character that ends the name stands for itself. -/
def value? (present : String → Option String) (done : List Char) (quoted : Bool) :
    Part → List Char → Option String
  | .text, [] | .escape, [] => if quoted then none else some (String.ofList done.reverse)
  | .name n, [] =>
    if quoted then none else some (String.ofList (substitute present n done).reverse)
  | .literal, [] | .bracedName _, [] => none
  | .text, c :: rest =>
    if c = '$' then value? present done quoted (.name []) rest
    else if c = '\\' then value? present done quoted .escape rest
    else if c = '"' then value? present done (!quoted) .text rest
    else if quoted then value? present (c :: done) quoted .text rest
    else if c = '\'' then value? present done quoted .literal rest
    else if c = ' ' ∨ c = '\t' then
      if isTail rest then some (String.ofList done.reverse) else none
    else value? present (c :: done) quoted .text rest
  | .escape, c :: rest =>
    match unescape? c with
    | some c => value? present (c :: done) quoted .text rest
    | none => none
  | .literal, c :: rest =>
    if c = '\'' then value? present done quoted .text rest
    else value? present (c :: done) quoted .literal rest
  | .name n, c :: rest =>
    if Text.isAlphanumeric c then value? present done quoted (.name (c :: n)) rest
    else if n = [] ∧ c = '{' then value? present done quoted (.bracedName []) rest
    else if c = '$' then value? present (substitute present n done) quoted (.name []) rest
    else value? present (c :: substitute present n done) quoted .text rest
  | .bracedName n, c :: rest =>
    if c = '}' then value? present (substitute present n done) quoted .text rest
    else value? present done quoted (.bracedName (c :: n)) rest

def assigned? (present : String → Option String) : List Char → Option String
  | '=' :: rest =>
    match skipBlanks rest with
    -- a comment in place of a value is no value
    | [] | '#' :: _ => some ""
    | content => value? present [] false .text content
  | _ => none

def assignment? (present : String → Option String) (content : List Char) :
    Option (String × String) := do
  let (name, rest) ← name? content
  -- the word may also be the name that is assigned to
  if name = "export" ∧ rest.head? ≠ some '=' then
    let (name, rest) ← name? rest
    return (name, ← assigned? present rest)
  else return (name, ← assigned? present rest)

def behind (present : String → Option String) (file : List (String × String)) (name : String) :
    Option String :=
  present name <|> file.lookup name

/-- The assignments of the entries; the values of the earlier ones may stand in the later. -/
def assignments (present : String → Option String) : List (List Char) → List (String × String)
  | [] => []
  | entry :: rest =>
    match skipBlanks (Text.trimEnd entry) with
    | [] | '#' :: _ => assignments present rest
    | content =>
      match assignment? present content with
      | none => []
      | some a => a :: assignments (behind present [a]) rest

def withoutMark : List Char → List Char
  -- a byte order mark does not belong to the text
  | '\uFEFF' :: rest => rest
  | text => text

def read (present : String → Option String) (text : String) : List (String × String) :=
  assignments present (entries [] .plain (lines (withoutMark text.toList)))

/-- An environment has no room for a value with a NUL character, where the file is what sets it. -/
def admissible (present : String → Option String) (file : List (String × String)) : Bool :=
  file.all fun (name, value) => !value.contains '\x00' || behind present file name != some value

/-! ## Names -/

def references : List Char → List String
  | [] => []
  | c :: rest =>
    if c = '$' then
      let name := match rest with
        -- a lookup goes by what stands before an equals sign
        | '{' :: inner => inner.takeWhile fun c => c != '}' && c != '='
        | rest => rest.takeWhile Text.isAlphanumeric
      String.ofList name :: references rest
    else references rest

def mentioned (text : String) : List String :=
  references text.toList ++ (read (fun _ => none) text).map (·.1)

end TraceQuery.Variables
