import TraceQuery.Reader.Session

/-!
What becomes of one statement: whether it is issued, and whether its rows are returned. All that
calls of the reader do to a session they do by way of this.
-/

set_option autoImplicit false
namespace TraceQuery

open Sql (Statement)

variable {σ α β : Type}

/--
What becomes of a statement that is issued under a deadline: all rows if they come to an end,
whatever the deadline is and whoever has cancelled; none of them if the store fails; and nothing
at all if the store goes on for ever and neither a cancellation nor a deadline ends the call.
-/
def Execution.outcome (e : Execution) (stage : QueryStage) (deadline : Option Nat) (now : Nat) :
    Outcome (List Row) :=
  match e.ending, deadline with
  | .complete, _ => .ok e.rows
  | .failed cause, _ => .error (.execution stage cause)
  | .unending, none =>
    if e.cancels then .error (.cancelled stage .requested) else .unending
  | .unending, some d =>
    .error (.cancelled stage (if e.cancels ∧ now ≤ d then .requested else .deadlineExceeded))

theorem Execution.outcome_of_complete {e : Execution} (complete : e.ending = .complete)
    (stage : QueryStage) (deadline : Option Nat) (now : Nat) :
    e.outcome stage deadline now = .ok e.rows := by
  simp only [outcome, complete]

theorem Execution.outcome_eq_ok {e : Execution} {stage : QueryStage} {deadline : Option Nat}
    {now : Nat} {rows : List Row} (returned : e.outcome stage deadline now = .ok rows) :
    e.ending = .complete ∧ e.rows = rows := by
  unfold outcome at returned
  split at returned
  · next complete => exact ⟨complete, by simpa [Outcome.ok] using returned⟩
  · cases returned
  · split at returned <;> cases returned
  · cases returned

def Outcome.map (f : α → β) : Outcome α → Outcome β
  | .returned (.ok a) => .ok (f a)
  | .returned (.error e) => .error e
  | .unending => .unending
  | .noDeadline => .noDeadline

theorem Execution.outcome_eq_error {e : Execution} {stage : QueryStage} {deadline : Option Nat}
    {now : Nat} {error : QueryError} (failed : e.outcome stage deadline now = .error error) :
    (∃ cause, error = .execution stage cause) ∨ error = .cancelled stage .deadlineExceeded ∨
      (error = .cancelled stage .requested ∧ e.cancels = true) := by
  obtain ⟨rows, ending, cancels⟩ := e
  cases ending with
  | complete => cases failed
  | failed cause =>
    cases failed
    exact .inl ⟨cause, rfl⟩
  | unending =>
    cases deadline with
    | none =>
      cases cancels with
      | true =>
        cases failed
        exact .inr (.inr ⟨rfl, rfl⟩)
      | false => cases failed
    | some d =>
      by_cases before : cancels = true ∧ now ≤ d
      · have requested : error = .cancelled stage .requested := by
          simpa [outcome, Outcome.error, before, eq_comm] using failed
        exact .inr (.inr ⟨requested, before.1⟩)
      · have exceeded : error = .cancelled stage .deadlineExceeded := by
          simpa [outcome, Outcome.error, before, eq_comm] using failed
        exact .inr (.inl exceeded)

@[simp]
theorem Outcome.map_eq_error_iff {f : α → β} {outcome : Outcome α} {e : QueryError} :
    outcome.map f = .error e ↔ outcome = .error e := by
  cases outcome with
  | returned result => cases result <;> simp [Outcome.map, Outcome.ok, Outcome.error]
  | unending => simp [Outcome.map, Outcome.error]
  | noDeadline => simp [Outcome.map, Outcome.error]

theorem Context.run_of_active {c : Context} (active : c.cancelled = false) (now : Nat)
    (stage : QueryStage) (work : Work α) :
    (c.run now stage work).started = true ∧
      (c.run now stage work).context = { c with cancelled := work.cancels } := by
  unfold run
  rw [if_neg (by simp [active])]
  cases work.result with
  | some result => exact ⟨rfl, rfl⟩
  | none =>
    cases c.deadline with
    | none => simp only; split <;> exact ⟨rfl, rfl⟩
    | some d => simp only; split <;> exact ⟨rfl, rfl⟩

namespace Session

variable {s : Session σ}

theorem fetch_of_cancelled (cancelled : s.context.cancelled = true) (executor : Executor σ)
    (deadline : Option Nat) (stage : QueryStage) (statement : Statement) :
    s.fetch executor deadline stage statement = (.error (.cancelled stage .requested), s) := by
  simp [fetch, Context.run, cancelled, Outcome.error]

theorem fetch_outcome (s : Session σ) (executor : Executor σ) (deadline : Option Nat)
    (stage : QueryStage) (statement : Statement) :
    (s.fetch executor deadline stage statement).1 =
      match ({ s.context with deadline }.run s.now stage
        ((executor.fetch s.store statement).1.work stage)).result with
      | none => .unending
      | some result => .returned result := by
  simp only [fetch]
  split <;> rfl

theorem fetch_outcome_of_active (active : s.context.cancelled = false) (executor : Executor σ)
    (deadline : Option Nat) (stage : QueryStage) (statement : Statement) :
    (s.fetch executor deadline stage statement).1 =
      (executor.fetch s.store statement).1.outcome stage deadline s.now := by
  rw [fetch_outcome]
  obtain ⟨rows, ending, cancels⟩ := (executor.fetch s.store statement).1
  cases ending with
  | complete => simp [Context.run, active, Execution.work, Execution.outcome, Outcome.ok]
  | failed cause => simp [Context.run, active, Execution.work, Execution.outcome, Outcome.error]
  -- Only a store that goes on for ever is ended from outside.
  | unending =>
    cases deadline with
    | none =>
      cases cancels <;>
        simp [Context.run, active, Execution.work, Execution.outcome, Outcome.error]
    | some d =>
      by_cases before : cancels = true ∧ s.now ≤ d <;>
        simp [Context.run, active, Execution.work, Execution.outcome, Outcome.error, before]

theorem fetch_eq_error {executor : Executor σ} {deadline : Option Nat} {stage : QueryStage}
    {statement : Statement} {e : QueryError}
    (failed : (s.fetch executor deadline stage statement).1 = .error e) :
    (∃ cause, e = .execution stage cause) ∨ ∃ reason, e = .cancelled stage reason := by
  cases cancelled : s.context.cancelled with
  | true =>
    rw [fetch_of_cancelled cancelled] at failed
    cases failed
    exact .inr ⟨.requested, rfl⟩
  | false =>
    rw [fetch_outcome_of_active cancelled] at failed
    rcases Execution.outcome_eq_error failed with execution | exceeded | requested
    · exact .inl execution
    · exact .inr ⟨.deadlineExceeded, exceeded⟩
    · exact .inr ⟨.requested, requested.1⟩

/-- Rows are returned only by a store that ends, to a caller who has not cancelled. -/
theorem fetch_eq_ok {after : Session σ} {executor : Executor σ} {deadline : Option Nat}
    {stage : QueryStage} {statement : Statement} {rows : List Row}
    (returned : s.fetch executor deadline stage statement = (.ok rows, after)) :
    s.context.cancelled = false ∧ (executor.fetch s.store statement).1.ending = .complete ∧
      (executor.fetch s.store statement).1.rows = rows := by
  cases cancelled : s.context.cancelled with
  | true =>
    rw [fetch_of_cancelled cancelled] at returned
    cases returned
  | false =>
    have outcome := fetch_outcome_of_active cancelled executor deadline stage statement
    rw [returned] at outcome
    exact ⟨rfl, Execution.outcome_eq_ok outcome.symm⟩

theorem fetch_of_complete {executor : Executor σ} {deadline : Option Nat}
    {stage : QueryStage} {statement : Statement} {rows : List Row} {cancels : Bool} {store : σ}
    (active : s.context.cancelled = false)
    (answer : executor.fetch s.store statement = (⟨rows, .complete, cancels⟩, store)) :
    s.fetch executor deadline stage statement =
      (.ok rows, { s with
        store, issued := s.issued ++ [statement]
        context := { s.context with cancelled := cancels } }) := by
  simp [fetch, answer, Context.run, active, Execution.work, Outcome.ok]

theorem issued_fetch_of_active (active : s.context.cancelled = false) (executor : Executor σ)
    (deadline : Option Nat) (stage : QueryStage) (statement : Statement) :
    (s.fetch executor deadline stage statement).2.issued = s.issued ++ [statement] := by
  have started := (Context.run_of_active (c := { s.context with deadline }) active s.now stage
    ((executor.fetch s.store statement).1.work stage)).1
  simp only [fetch, started, if_true]

theorem warnings_fetch (s : Session σ) (executor : Executor σ) (deadline : Option Nat)
    (stage : QueryStage) (statement : Statement) :
    (s.fetch executor deadline stage statement).2.warnings = s.warnings := by
  simp only [fetch]
  split <;> rfl

theorem outcome_andThen {next : α → Session σ → Outcome β × Session σ} {f : α → β}
    (shown : ∀ a t, (next a t).1 = .ok (f a)) (call : Outcome α × Session σ) :
    (andThen call next).1 = call.1.map f := by
  obtain ⟨outcome, t⟩ := call
  cases outcome with
  | returned result =>
    cases result with
    | ok a => exact shown a t
    | error e => rfl
  | unending => rfl
  | noDeadline => rfl

theorem kept_andThen {γ : Type} {next : α → Session σ → Outcome β × Session σ}
    (part : Session σ → γ) (kept : ∀ a t, part (next a t).2 = part t)
    (call : Outcome α × Session σ) : part (andThen call next).2 = part call.2 := by
  obtain ⟨outcome, t⟩ := call
  cases outcome with
  | returned result =>
    cases result with
    | ok a => exact kept a t
    | error e => rfl
  | unending => rfl
  | noDeadline => rfl

theorem andThen_eq_ok {call : Outcome α × Session σ} {next : α → Session σ → Outcome β × Session σ}
    {b : β} {after : Session σ} (returned : andThen call next = (.ok b, after)) :
    ∃ a between, call = (.ok a, between) ∧ next a between = (.ok b, after) := by
  obtain ⟨outcome, between⟩ := call
  cases outcome with
  | returned result =>
    cases result with
    | ok a => exact ⟨a, between, rfl, returned⟩
    | error e => simp [andThen, Outcome.error, Outcome.ok] at returned
  | unending => simp [andThen, Outcome.ok] at returned
  | noDeadline => simp [andThen, Outcome.ok] at returned

/-- A session apart from its warnings, which nothing that is done later looks at. -/
def unwarned (s : Session σ) : Session σ :=
  { s with warnings := [] }

theorem fetch_of_unwarned {t : Session σ} (same : s.unwarned = t.unwarned)
    (executor : Executor σ) (deadline : Option Nat) (stage : QueryStage) (statement : Statement) :
    (s.fetch executor deadline stage statement).1 =
        (t.fetch executor deadline stage statement).1 ∧
      (s.fetch executor deadline stage statement).2.unwarned =
        (t.fetch executor deadline stage statement).2.unwarned := by
  obtain ⟨store, context, now, issued, warnings⟩ := s
  obtain ⟨store', context', now', issued', warnings'⟩ := t
  cases same
  simp only [fetch]
  split <;> exact ⟨rfl, rfl⟩

end Session

end TraceQuery
