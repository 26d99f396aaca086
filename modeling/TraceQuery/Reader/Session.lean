import TraceQuery.Reader.Context
import TraceQuery.Sql.Statement
import TraceQuery.Tag.Catalog

/-!
What calls of the reader read and change: the store, the caller's context, the clock, and the
records of the statements issued and the warnings given.
-/

set_option autoImplicit false
namespace TraceQuery

open Sql (Statement)

inductive Ending
  | complete
  | failed (cause : String)
  | unending
  deriving DecidableEq, Repr

structure Execution where
  rows : List Row
  ending : Ending
  cancels : Bool

namespace Execution

def noRows : Execution := ⟨[], .complete, false⟩

/-- Rows before a failure are lost. -/
def work (e : Execution) (stage : QueryStage) : Work (List Row) :=
  { cancels := e.cancels
    result :=
      match e.ending with
      | .complete => some (.ok e.rows)
      | .failed cause => some (.error (.execution stage cause))
      | .unending => none }

end Execution

structure Executor (σ : Type) where
  fetch : σ → Statement → Execution × σ

/-- Answers with prepared executions in order, and then without rows. -/
def Executor.scripted : Executor (List Execution) where
  fetch script _ :=
    match script with
    | [] => (.noRows, [])
    | e :: rest => (e, rest)

inductive Warning
  | skippedSpan (row : SkippedRow)
  | skippedTag (index : Nat) (error : RowError)
  | skippedTagValue (tag : String) (index : Nat) (error : RowError)
  | omittedTag (tag : String) (error : QueryError)
  | typeCollision (collision : TypeCollision)
  deriving DecidableEq

namespace Warning

def message : Warning → String
  | .skippedSpan _ => "Skipping span row that failed to decode"
  | .skippedTag _ _ => "Skipping undecodable tag row"
  | .skippedTagValue _ _ _ => "Skipping undecodable tag value row"
  | .omittedTag _ _ => "Omitting tag from batch tag values"
  | .typeCollision _ => "Dynamic tag collides with static tag, keeping static"

def fields : Warning → List (String × String)
  | .skippedSpan row => [("row_index", row.index.repr), ("error", row.error.message)]
  | .skippedTag index error => [("row_index", index.repr), ("error", error.message)]
  | .skippedTagValue tag index error =>
    [("tag", tag), ("row_index", index.repr), ("error", error.message)]
  | .omittedTag tag error => [("tag", tag), ("error", error.message)]
  | .typeCollision c =>
    [("tag", c.name), ("static_type", c.registered.name), ("dynamic_type", c.discovered.name)]

end Warning

structure Session (σ : Type) where
  store : σ
  context : Context
  now : Nat
  issued : List Statement
  warnings : List Warning

inductive Outcome (α : Type)
  | returned (result : Except QueryError α)
  | unending
  /-- The deadline lies beyond the last instant of the clock. -/
  | noDeadline

namespace Outcome

def ok {α : Type} (a : α) : Outcome α := .returned (.ok a)

def error {α : Type} (e : QueryError) : Outcome α := .returned (.error e)

end Outcome

namespace Session

variable {σ α β : Type}

def start (store : σ) (context : Context) (now : Nat) : Session σ :=
  ⟨store, context, now, [], []⟩

def warn (s : Session σ) (warnings : List Warning) : Session σ :=
  { s with warnings := s.warnings ++ warnings }

def fetch (s : Session σ) (executor : Executor σ) (deadline : Option Nat) (stage : QueryStage)
    (statement : Statement) : Outcome (List Row) × Session σ :=
  let (execution, store) := executor.fetch s.store statement
  let run := { s.context with deadline }.run s.now stage (execution.work stage)
  let outcome := match run.result with
    | none => .unending
    | some result => .returned result
  if run.started then
    (outcome,
      { s with
        store, now := run.now, issued := s.issued ++ [statement]
        context := { s.context with cancelled := run.context.cancelled } })
  -- a caller who has cancelled leaves everything as it was
  else (outcome, s)

def andThen (call : Outcome α × Session σ) (next : α → Session σ → Outcome β × Session σ) :
    Outcome β × Session σ :=
  match call with
  | (.returned (.ok a), s) => next a s
  | (.returned (.error e), s) => (.error e, s)
  | (.unending, s) => (.unending, s)
  | (.noDeadline, s) => (.noDeadline, s)

end Session

end TraceQuery
