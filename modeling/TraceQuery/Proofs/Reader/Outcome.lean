import TraceQuery.Proofs.Reader.Search
import TraceQuery.Proofs.Span.OfRow

/-!
How a search ends. What is wrong with the request is told first, then that the caller has
cancelled, and neither issues a statement. Otherwise exactly one statement is issued, and its rows
are returned all or not at all.
-/

set_option autoImplicit false
namespace TraceQuery

variable {σ : Type}

def Outcome.warnings : Outcome SpanPage → List Warning
  | .returned (.ok page) => page.skipped.map .skippedSpan
  | _ => []

namespace SpanReader

theorem plan_of_invalid_token (r : SpanReader) {request : SearchRequest} {token : PageToken}
    (given : request.nextToken = some token) (unread : token.boundary? = none) :
    r.plan request = .error (.invalidCursor token) := by
  simp [plan, boundary, given, unread]

theorem plan_of_build_error {r : SpanReader} {request : SearchRequest} {b : Option Int64}
    {e : BuildError} (bounded : boundary request = .ok b)
    (failed : request.plan b r.registry r.settings.limits = .error e) :
    r.plan request = .error (.build e) := by
  simp [plan, bounded, failed]

section
variable {r : SpanReader} {request : SearchRequest} {s : Session σ}

theorem search_of_error {e : QueryError} (failed : r.plan request = .error e)
    (executor : Executor σ) : r.search executor request s = (.error e, s) := by
  rw [search, failed]

variable {plan : SearchPlan}

theorem search_of_noDeadline (built : r.plan request = .ok plan) (untimed : r.scoped? s = none)
    (executor : Executor σ) : r.search executor request s = (.noDeadline, s) := by
  rw [search, built]
  simp only [untimed]

variable {deadline : Option Nat}

theorem search_of_timed (built : r.plan request = .ok plan) (timed : r.scoped? s = some deadline)
    (executor : Executor σ) :
    r.search executor request s =
      Session.andThen (s.fetch executor deadline .search plan.statement) fun rows t =>
        (.ok (r.page plan rows), t.warn ((r.page plan rows).skipped.map .skippedSpan)) := by
  rw [search, built]
  simp only [timed]

theorem search_of_cancelled (built : r.plan request = .ok plan)
    (timed : r.scoped? s = some deadline) (cancelled : s.context.cancelled = true)
    (executor : Executor σ) :
    r.search executor request s = (.error (.cancelled .search .requested), s) := by
  rw [search_of_timed built timed, Session.fetch_of_cancelled cancelled]
  rfl

theorem outcome_search (built : r.plan request = .ok plan) (timed : r.scoped? s = some deadline)
    (active : s.context.cancelled = false) (executor : Executor σ) :
    (r.search executor request s).1 =
      ((executor.fetch s.store plan.statement).1.outcome .search deadline s.now).map
        (r.page plan) := by
  rw [search_of_timed built timed, Session.outcome_andThen (fun _ _ => rfl),
    Session.fetch_outcome_of_active active]

theorem issued_search (built : r.plan request = .ok plan) (timed : (r.scoped? s).isSome)
    (active : s.context.cancelled = false) (executor : Executor σ) :
    (r.search executor request s).2.issued = s.issued ++ [plan.statement] := by
  obtain ⟨deadline, timed⟩ := Option.isSome_iff_exists.1 timed
  rw [search_of_timed built timed, Session.kept_andThen (·.issued) (fun _ _ => rfl),
    Session.issued_fetch_of_active active]

theorem warnings_search (r : SpanReader) (executor : Executor σ) (request : SearchRequest)
    (s : Session σ) :
    (r.search executor request s).2.warnings =
      s.warnings ++ (r.search executor request s).1.warnings := by
  have silent (outcome : Outcome SpanPage) (quiet : outcome.warnings = []) :
      s.warnings = s.warnings ++ outcome.warnings := by rw [quiet, List.append_nil]
  cases built : r.plan request with
  | error e =>
    rw [search_of_error built]
    exact silent _ rfl
  | ok plan =>
    cases timed : r.scoped? s with
    | none =>
      rw [search_of_noDeadline built timed]
      exact silent _ rfl
    | some deadline =>
      rw [search_of_timed built timed]
      have kept := Session.warnings_fetch s executor deadline .search plan.statement
      -- The statement itself warns of nothing; only rows that were returned can be left out.
      generalize s.fetch executor deadline .search plan.statement = fetched at kept
      obtain ⟨outcome, t⟩ := fetched
      simp only at kept
      cases outcome with
      | returned result =>
        cases result with
        | ok rows => simp [Session.andThen, Session.warn, Outcome.ok, Outcome.warnings, kept]
        | error e => exact kept.trans (silent _ rfl)
      | unending => exact kept.trans (silent _ rfl)
      | noDeadline => exact kept.trans (silent _ rfl)

end

/--
The first of these that applies decides how a search ends: a token that stands for no boundary, a
request that no query can be built from, a deadline that the clock cannot tell, a caller who has
cancelled, and last what the store does with the one statement that is issued.
-/
theorem search_decided_in_order (r : SpanReader) (executor : Executor σ) (request : SearchRequest)
    (s : Session σ) :
    (∀ token, request.nextToken = some token → token.boundary? = none →
      r.search executor request s = (.error (.invalidCursor token), s)) ∧
    ∀ b, boundary request = .ok b →
      (∀ e, request.plan b r.registry r.settings.limits = .error e →
        r.search executor request s = (.error (.build e), s)) ∧
      ∀ plan, request.plan b r.registry r.settings.limits = .ok plan →
        (r.scoped? s = none → r.search executor request s = (.noDeadline, s)) ∧
        ∀ deadline, r.scoped? s = some deadline →
          (s.context.cancelled = true →
            r.search executor request s = (.error (.cancelled .search .requested), s)) ∧
          (s.context.cancelled = false →
            ∃ outcome after, r.search executor request s = (outcome, after) ∧
              after.issued = s.issued ++ [plan.statement] ∧
              after.warnings = s.warnings ++ outcome.warnings ∧
              outcome = ((executor.fetch s.store plan.statement).1.outcome .search deadline
                s.now).map (r.page plan)) := by
  refine ⟨fun token given unread => search_of_error (r.plan_of_invalid_token given unread) executor,
    fun b bounded => ⟨fun e failed => search_of_error (plan_of_build_error bounded failed) executor,
      fun plan planned => ?_⟩⟩
  have built : r.plan request = .ok plan := plan_eq_ok_iff.2 ⟨b, bounded, planned⟩
  refine ⟨fun untimed => search_of_noDeadline built untimed executor, fun deadline timed =>
    ⟨fun cancelled => search_of_cancelled built timed cancelled executor, fun active => ?_⟩⟩
  exact ⟨_, _, rfl, issued_search built (by simp [timed]) active executor,
    warnings_search r executor request s, outcome_search built timed active executor⟩

/-- A failure after a row, and a stream that does not end before the default timeout. -/
theorem search_decided_in_order_late :
    let r : SpanReader := ⟨.standard, .standard⟩
    let s (ending : Ending) := Session.start [⟨[.timed "a" 5 1], ending, false⟩] .fresh 7
    (∃ after, r.search .scripted .standard (s (.failed "disk I/O error")) =
        (.error (.execution .search "disk I/O error"), after) ∧ after.issued.length = 1) ∧
      ∃ after, r.search .scripted .standard (s .unending) =
        (.error (.cancelled .search .deadlineExceeded), after) ∧ after.issued.length = 1 := by
  intro r s
  have ⟨plan, planned⟩ :
      ∃ plan, SearchRequest.standard.plan none r.registry r.settings.limits = .ok plan := ⟨_, rfl⟩
  have searched (ending : Ending) :=
    ((((search_decided_in_order r .scripted .standard (s ending)).2 none rfl).2 plan planned).2
      (some 30000000007) (by cbv)).2 rfl
  constructor
  · obtain ⟨_, after, returned, issued, -, rfl⟩ := searched (.failed "disk I/O error")
    exact ⟨after, returned, by rw [issued]; rfl⟩
  · obtain ⟨_, after, returned, issued, -, rfl⟩ := searched .unending
    exact ⟨after, returned, by rw [issued]; rfl⟩

/-- Of a timeout this long no deadline can be told, though the store would answer at once. -/
theorem search_noDeadline_of_greatest_timeout :
    let settings := { QuerySettings.standard with timeoutSecs := 18446744073709551615 }
    let s := Session.start [Execution.noRows] .fresh 0
    SpanReader.search ⟨.standard, settings⟩ .scripted .standard s = (.noDeadline, s) := by
  intro settings s
  have ⟨plan, built⟩ : ∃ plan, SpanReader.plan ⟨.standard, settings⟩ .standard = .ok plan :=
    ⟨_, rfl⟩
  exact search_of_noDeadline built (by cbv) .scripted

end SpanReader

end TraceQuery
