import TraceQuery.Reader.Error

/-!
What can end a call before its work is done: cancellation by the caller, and a deadline. Instants
and timeouts are nanoseconds on one clock.
-/

set_option autoImplicit false
namespace TraceQuery

structure Context where
  cancelled : Bool
  deadline : Option Nat
  deriving DecidableEq, Repr

structure Work (α : Type) where
  result : Option (Except QueryError α)
  cancels : Bool

structure Run (α : Type) where
  result : Option (Except QueryError α)
  context : Context
  now : Nat
  started : Bool

namespace Context

def nanosPerSecond : Nat := 1000000000

def fresh : Context := ⟨false, none⟩

/-- The last instant of a clock of signed 64-bit seconds. -/
def lastInstant : Nat := 9223372036854775808 * nanosPerSecond - 1

def tighten (deadline : Option Nat) (candidate : Nat) : Nat :=
  match deadline with
  | none => candidate
  | some d => min d candidate

def withTimeout? (c : Context) (now : Nat) (timeout : Option Nat) : Option Context :=
  match timeout with
  | none => some c
  | some t =>
    -- an earlier deadline is kept, but the clock has to tell the new one all the same
    if now + t ≤ lastInstant then some { c with deadline := some (tighten c.deadline (now + t)) }
    else none

/--
A cancelled context does not start the work. Work that is done is returned, whatever else holds.
Work that never ends is waited for until the context is cancelled or the deadline has passed.
-/
def run {α : Type} (c : Context) (now : Nat) (stage : QueryStage) (work : Work α) : Run α :=
  if c.cancelled then ⟨some (.error (.cancelled stage .requested)), c, now, false⟩
  else
    let after := { c with cancelled := work.cancels }
    match work.result with
    | some result => ⟨some result, after, now, true⟩
    | none =>
      match c.deadline with
      | none =>
        if work.cancels then ⟨some (.error (.cancelled stage .requested)), after, now, true⟩
        else ⟨none, after, now, true⟩
      | some d =>
        if work.cancels ∧ now ≤ d then
          ⟨some (.error (.cancelled stage .requested)), after, now, true⟩
        else ⟨some (.error (.cancelled stage .deadlineExceeded)), after, max now (d + 1), true⟩

end Context

end TraceQuery
