import TraceQuery.CommandLine.Setting

/-!
Reading the arguments of the program. The arguments after a subcommand are read and checked as a
whole before what stands before it is.
-/

set_option autoImplicit false
namespace TraceQuery.CommandLine

inductive Subcommand
  | search
  | tags
  | tagValues
  deriving DecidableEq, Repr

namespace Subcommand

def all : List Subcommand := [.search, .tags, .tagValues]

def name : Subcommand → String
  | .search => "search"
  | .tags => "tags"
  | .tagValues => "tag-values"

def ofName? (name : String) : Option Subcommand :=
  all.find? (·.name == name)

def options : Subcommand → List Opt
  | .search => [.filters, .start, .stop, .sort, .direction, .cursor, .limit]
  | .tags => []
  | .tagValues => [.filters, .start, .stop]

end Subcommand

inductive Level
  | top
  | sub (command : Subcommand)
  deriving DecidableEq, Repr

namespace Level

def options : Level → List Opt
  | .top => Opt.everywhere
  | .sub command => command.options ++ Opt.everywhere

def takesWords : Level → Bool
  | .sub .tagValues => true
  | _ => false

end Level

structure Progress where
  given : List Setting
  /-- The last option, until its value is checked: the value may not have come yet. -/
  pending : Option (Opt × Option String)
  words : List String
  /-- After a double dash every argument is a word. -/
  wordsOnly : Bool

namespace Progress

def start : Progress := ⟨[], none, [], false⟩

def has (p : Progress) (o : Opt) : Bool :=
  p.given.any fun s => s.opt == o

def awaitsValue (p : Progress) : Bool :=
  match p.pending with
  | some (_, none) => true
  | _ => false

def accept (p : Progress) (o : Opt) (text : Option String) : Except UsageError Progress :=
  match text with
  | none => .error .invalidValue
  | some text =>
    -- an option is given once at a level
    if p.has o then .error .argumentConflict
    else
      match o.read text with
      | .error e => .error e
      | .ok s => .ok { p with given := p.given ++ [s] }

def settle (p : Progress) : Except UsageError Progress :=
  match p.pending with
  | none => .ok p
  | some (o, text) => { p with pending := none }.accept o text

def meet (p : Progress) (o : Opt) (attached : Option String) : Except UsageError Progress := do
  let p ← p.settle
  match attached with
  | some text => p.accept o (some text)
  | none => return { p with pending := some (o, none) }

/-- A request for help or for the version ends reading, once what came before is checked. -/
def stop (p : Progress) (e : UsageError) : Except UsageError Progress := do
  let _ ← p.settle
  .error e

def strayWord (level : Level) (p : Progress) (word : String) : UsageError :=
  match level with
  | .top =>
    if p.wordsOnly && (word == "help" || (Subcommand.ofName? word).isSome) then .unknownArgument
    else .invalidSubcommand
  | .sub _ => .unknownArgument

def word (level : Level) (p : Progress) (text : String) : Except UsageError Progress :=
  match p.pending, p.wordsOnly with
  | some (o, none), false => .ok { p with pending := some (o, some text) }
  | _, _ =>
    if level.takesWords then do
      let p ← p.settle
      return { p with words := p.words ++ [text] }
    else .error (strayWord level p text)

def long (level : Level) (p : Progress) (body : List Char) : Except UsageError Progress :=
  let name := String.ofList (body.takeWhile (· != '='))
  let attached := match body.dropWhile (· != '=') with
    | [] => none
    | _ :: value => some (String.ofList value)
  match level.options.find? (·.longName == name) with
  | some o => p.meet o attached
  | none =>
    if name = "help" then stopUnlessAttached p attached .help
    else if name = "version" ∧ level = .top then stopUnlessAttached p attached .version
    else .error .unknownArgument
where
  stopUnlessAttached (p : Progress) (attached : Option String) (e : UsageError) :
      Except UsageError Progress :=
    match attached with
    | some _ => .error .tooManyValues
    | none => p.stop e

def short (level : Level) (p : Progress) (flag : Char) (rest : List Char) :
    Except UsageError Progress :=
  match level.options.find? (·.shortName? == some flag) with
  | some o =>
    p.meet o <| match rest with
      | [] => none
      | '=' :: value => some (String.ofList value)
      | value => some (String.ofList value)
  | none =>
    if flag = 'h' then p.stop .help
    else if flag = 'V' ∧ level = .top then p.stop .version
    else .error .unknownArgument

def argument (level : Level) (p : Progress) (text : String) : Except UsageError Progress :=
  if p.wordsOnly then p.word level text
  else
    match text.toList with
    | ['-', '-'] => .ok { p with wordsOnly := true }
    | '-' :: '-' :: body => p.long level body
    | '-' :: flag :: rest => p.short level flag rest
    | _ => p.word level text

end Progress

def helpFor : List String → UsageError
  | [] => .help
  | [name] =>
    if name = "help" ∨ (Subcommand.ofName? name).isSome then .help else .invalidSubcommand
  | _ => .invalidSubcommand

/-- Reads up to the subcommand, if there is one; gives it with the arguments after it. -/
def readTop : List String → Progress →
    Except UsageError (Progress × Option (Subcommand × List String))
  | [], p => .ok (p, none)
  | a :: rest, p =>
    if !p.wordsOnly && !p.awaitsValue && a == "help" then .error (helpFor rest)
    else
      match if p.wordsOnly || p.awaitsValue then none else Subcommand.ofName? a with
      | some command => .ok (p, some (command, rest))
      | none =>
        match p.argument .top a with
        | .error e => .error e
        | .ok p => readTop rest p

def readSub (command : Subcommand) : List String → Progress → Except UsageError Progress
  | [], p => .ok p
  | a :: rest, p =>
    match p.argument (.sub command) a with
    | .error e => .error e
    | .ok p => readSub command rest p

structure Settled where
  given : List Setting
  fromEnvironment : List Setting
  words : List String

/-- A variable is read even if another level gives its option. -/
def readEnvironment (environment : String → Option String) (p : Progress) :
    List Opt → Except UsageError (List Setting)
  | [] => .ok []
  | o :: rest => do
    let here ← match o.environmentName?.bind environment with
      | none => pure []
      | some text => if p.has o then pure [] else pure [← o.read text]
    return here ++ (← readEnvironment environment p rest)

def settled (environment : String → Option String) (p : Progress) : Except UsageError Settled := do
  let p ← p.settle
  return ⟨p.given, ← readEnvironment environment p Opt.everywhere, p.words⟩

structure Scope where
  filters : Option String
  start : Option UInt64
  stop : Option UInt64
  deriving DecidableEq, Repr

inductive Command
  | search (scope : Scope) (sort : Option String) (direction : SortDirection)
      (cursor : Option String) (limit : Option UInt32)
  | tags
  | tagValues (tags : List String) (scope : Scope)
  deriving DecidableEq, Repr

structure Invocation where
  overrides : Config.Overrides
  command : Command
  deriving DecidableEq, Repr

def overrides (settings : List Setting) : Config.Overrides :=
  { config := settings.findSome? fun | .config s => some s | _ => none
    dbPath := settings.findSome? fun | .dbPath s => some s | _ => none
    maxConnections := settings.findSome? fun | .maxConnections n => some n | _ => none
    defaultPageSize := settings.findSome? fun | .defaultPageSize n => some n | _ => none
    maxPageSize := settings.findSome? fun | .maxPageSize n => some n | _ => none
    timeoutSecs := settings.findSome? fun | .timeoutSecs n => some n | _ => none
    cursorPolicy := settings.findSome? fun | .cursorPolicy p => some p | _ => none
    maxTagValues := settings.findSome? fun | .maxTagValues n => some n | _ => none }

def scope (settings : List Setting) : Scope :=
  { filters := settings.findSome? fun | .filters s => some s | _ => none
    start := settings.findSome? fun | .start t => some t | _ => none
    stop := settings.findSome? fun | .stop t => some t | _ => none }

def command (sub : Subcommand) (words : List String) (settings : List Setting) : Command :=
  match sub with
  | .tags => .tags
  | .tagValues => .tagValues words (scope settings)
  | .search =>
    .search (scope settings)
      (settings.findSome? fun | .sort s => some s | _ => none)
      ((settings.findSome? fun | .direction d => some d | _ => none).getD .standard)
      (settings.findSome? fun | .cursor s => some s | _ => none)
      (settings.findSome? fun | .limit n => some n | _ => none)

/--
An option given after the subcommand goes before one given ahead of it, and an option that is
given goes before a variable.
-/
def parse (environment : String → Option String) (args : List String) :
    Except UsageError Invocation := do
  let (p, sub) ← readTop args .start
  match sub with
  | none =>
    let top ← settled environment p
    if top.given.isEmpty && top.fromEnvironment.isEmpty then .error .helpForNothing
    else .error .missingSubcommand
  | some (sub, rest) =>
    let inner ← settled environment (← readSub sub rest .start)
    if sub = .tagValues ∧ inner.words = [] then .error .missingRequiredArgument
    let top ← settled environment p
    let settings := inner.given ++ top.given ++ inner.fromEnvironment ++ top.fromEnvironment
    return { overrides := overrides settings, command := command sub inner.words inner.given }

end TraceQuery.CommandLine
