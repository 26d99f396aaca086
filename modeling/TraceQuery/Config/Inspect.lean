import TraceQuery.Config.Layer
import TraceQuery.Json.Inspect

/-! The first fault of a configuration file, in the order in which it is read. -/

set_option autoImplicit false
namespace TraceQuery.Config.Inspect

open Json (Stop Found Reason)
open Json.Inspect

inductive Shape
  | text
  | uint32
  | uint64
  | policy
  deriving DecidableEq, Repr

structure Layout where
  name : String
  settings : List (String × Shape)

def databaseLayout : Layout :=
  ⟨"struct DatabaseFileConfig",
    [("path", .text), ("max_connections", .uint32), ("busy_timeout_secs", .uint64)]⟩

def queryLayout : Layout :=
  ⟨"struct QueryFileConfig",
    [ ("default_page_size", .uint32), ("max_page_size", .uint32), ("timeout_secs", .uint64)
    , ("cursor_policy", .policy), ("max_tag_values", .uint32) ]⟩

def text (cs : List Char) : Except Stop (List Char) :=
  match cs with
  | '"' :: rest => (string true [] .text rest).map (·.2)
  | cs => .error (mismatch "a string" cs)

def integer (type : String) (holds : Int → Bool) (cs : List Char) : Except Stop (List Char) :=
  match scalar true cs with
  | .ok (.number n, rest) =>
    match n.value? with
    | some (.integer value _) =>
      if holds value then .ok rest else .error (.here (.wrongValue (.number n) type) rest 0)
    | _ => .error (.here (.wrongType (.number n) type) rest 0)
  | _ => .error (mismatch type cs)

def policyName (cs : List Char) : Except Stop (List Char) := do
  let (name, rest) ← string true [] .text cs
  if (CursorPolicy.ofName? name).isSome then return rest
  else throw (.here (.unknownVariant name "`any_rows` or `full_page`") rest 0)

def null (cs : List Char) : Except Stop (List Char) :=
  match skipSpace cs with
  | [] => .error (.here .endOfValue [] 1)
  | 'n' :: rest => word ['u', 'l', 'l'] rest
  | cs => .error (mismatch "unit" cs)

/-- A policy is a name, or an object that has it as its only key, with null as the value. -/
def policy (cs : List Char) : Except Stop (List Char) :=
  match cs with
  | '"' :: rest => policyName rest
  | '{' :: rest => do
    let rest ← match skipSpace rest with
      | [] => .error (.here .endOfValue [] 1)
      | '"' :: rest => policyName rest
      | cs => .error (mismatch "variant identifier" cs)
    let rest ← colon rest
    let rest ← null rest
    match skipSpace rest with
    | '}' :: rest => return rest
    | [] => throw (.here .endOfObject [] 0)
    | cs => throw (.here .noValue cs 0)
  | cs => .error (.here .noValue cs 1)

def setting (shape : Shape) (cs : List Char) : Except Stop (List Char) :=
  match skipSpace cs with
  | [] => .error (.here .endOfValue [] 1)
  | 'n' :: rest => word ['u', 'l', 'l'] rest
  | cs =>
    match shape with
    | .text => text cs
    | .uint32 => integer "u32" (fun value => (Word.uint32? value).isSome) cs
    | .uint64 => integer "u64" (fun value => (Word.uint64? value).isSome) cs
    | .policy => policy cs

def items (layout : Layout) (done : Nat) : List Shape → List Char → Except Stop (List Char)
  | [], cs =>
    match skipSpace cs with
    | ']' :: rest => .ok rest
    | [] => .error (.here .endOfList [] 1)
    | ',' :: rest =>
      let cs := skipSpace rest
      if cs.head? = some ']' then .error (.here .trailingComma cs 1)
      else .error (.here .trailingCharacters cs 1)
    | cs => .error (.here .trailingCharacters cs 1)
  | shape :: more, cs =>
    match skipSpace cs with
    | [] => .error (.here .endOfList [] 1)
    | ']' :: rest =>
      -- an array may not leave settings out
      let expected := s!"{layout.name} with {layout.settings.length} elements"
      .error (.here (.wrongLength done expected) rest 0)
    | c :: rest =>
      if done = 0 then do items layout (done + 1) more (← setting shape (c :: rest))
      else if c = ',' then
        match skipSpace rest with
        | [] => .error (.here .endOfValue [] 1)
        | ']' :: rest => .error (.here .trailingComma (']' :: rest) 1)
        | cs => do items layout (done + 1) more (← setting shape cs)
      else .error (.here .noListComma (c :: rest) 1)

/-- Where reading stops at a name that has come before: behind the object, if it ends there. -/
def repeatedStop (name : String) (cs : List Char) : Stop :=
  match skipSpace cs with
  | '}' :: rest => .here (.duplicate name) rest 0
  | cs => .here (.duplicate name) cs 0

def nextKey? (isFirst : Bool) (cs : List Char) : Except Stop (Option (List Char)) :=
  match skipSpace cs with
  | [] => .error (.here .endOfObject [] 1)
  | '}' :: _ => .ok none
  | c :: rest =>
    if isFirst then .ok (some (c :: rest))
    else if c = ',' then
      match skipSpace rest with
      | [] => .error (.here .endOfValue [] 1)
      | '}' :: rest => .error (.here .trailingComma ('}' :: rest) 1)
      | cs => .ok (some cs)
    else .error (.here .noObjectComma (c :: rest) 1)

/-- The members of an object up to its right brace. None of these names may come twice; what
stands behind a name is read by a function, in so many steps at most. There are no more steps than
characters. -/
def members (names : List String) (read : Nat → String → List Char → Except Stop (List Char)) :
    Nat → List String → Bool → List Char → Except Stop (List Char)
  | 0, _, _, cs => .ok cs
  | steps + 1, seen, isFirst, cs => do
    match ← nextKey? isFirst cs with
    | none => rightBrace cs
    | some cs =>
      let (name, rest) ← key cs
      if name ∈ names ∧ name ∈ seen then throw (repeatedStop name rest)
      let rest ← colon rest
      let rest ← read steps name rest
      members names read steps (name :: seen) false rest

def layoutSection (layout : Layout) (steps : Nat) (cs : List Char) : Except Stop (List Char) :=
  match skipSpace cs with
  | [] => .error (.here .endOfValue [] 1)
  | 'n' :: rest => word ['u', 'l', 'l'] rest
  | '[' :: rest => items layout 0 (layout.settings.map (·.2)) rest
  | '{' :: rest =>
    members (layout.settings.map (·.1))
      (fun steps name cs =>
        match layout.settings.lookup name with
        | some shape => setting shape cs
        -- of what is no setting only the grammar counts
        | none => walk .grammar 0 steps [] false cs)
      steps [] true rest
  | cs => .error (mismatch layout.name cs)

def member (steps : Nat) (name : String) (cs : List Char) : Except Stop (List Char) :=
  if name = "database" then layoutSection databaseLayout steps cs
  else if name = "query" then layoutSection queryLayout steps cs
  -- the object is itself one of the containers that may be open
  else walk .content (Json.nestingLimit - 1) steps [] false cs

/-- Why the members that are no sections have no value, once the whole object has been read. -/
def othersStop? (whole rest : List Char) : Option Stop :=
  match Json.Tree.ofScalars? ((whole.take (whole.length - rest.length)).map some) with
  | some (.object members) =>
    let others := FileLayer.others members
    if Json.Tree.isEmbedding others then embeddingStop? false rest others
    else membersStop? rest others
  | _ => none

def file (whole : List Char) : Except Stop Unit :=
  match skipSpace whole with
  | [] => .error (.here .endOfValue [] 1)
  | '{' :: rest => do
    let rest ← members FileLayer.sectionNames member (rest.length + 1) [] true rest
    match othersStop? whole rest with
    | some stop => throw stop
    | none => ending rest
  | cs => .error (mismatch "struct FileConfig" cs)

def fault? (content : String) : Option Json.Fault :=
  let text := content.toList
  match file text with
  | .ok () => none
  | .error stop => some (stop.fault text)

end TraceQuery.Config.Inspect
