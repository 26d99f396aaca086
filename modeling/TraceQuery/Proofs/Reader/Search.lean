import TraceQuery.Proofs.Query.Plan
import TraceQuery.Proofs.Query.Select
import TraceQuery.Proofs.Reader.Fetch
import TraceQuery.Reader.Basic

/-! What a search that returns a page has done, and when it returns one. -/

set_option autoImplicit false
namespace TraceQuery

variable {σ : Type}

theorem toOption_eq_some_iff {ε α : Type} {x : Except ε α} {a : α} :
    x.toOption = some a ↔ x = .ok a := by
  cases x <;> simp [Except.toOption]

namespace SpanReader

theorem mem_successes {α : Type} {ofRow : Row → Except RowError α} {rows : List Row} {a : α} :
    a ∈ successes ofRow rows ↔ ∃ row ∈ rows, ofRow row = .ok a := by
  simp only [successes, List.mem_filterMap, toOption_eq_some_iff]

theorem plan_eq_ok_iff {r : SpanReader} {request : SearchRequest} {plan : SearchPlan} :
    r.plan request = .ok plan ↔
      ∃ b, boundary request = .ok b ∧ request.plan b r.registry r.settings.limits = .ok plan := by
  unfold SpanReader.plan
  cases boundary request with
  | error e => simp
  | ok b =>
    cases built : request.plan b r.registry r.settings.limits with
    | error e => simp [built]
    | ok found => simp [built]

theorem boundary_of_token {request : SearchRequest} {token : PageToken} {b : Int64}
    (given : request.nextToken = some token) (read : token.boundary? = some b) :
    boundary request = .ok (some b) := by
  simp [boundary, given, read]

theorem plan_of_token {r : SpanReader} {request : SearchRequest} {first : SearchPlan}
    {token : PageToken} {b : Int64} (fresh : request.nextToken = none)
    (built : r.plan request = .ok first) (read : token.boundary? = some b) :
    r.plan { request with nextToken := some token } = .ok (first.from b) := by
  -- Without a token there is no boundary, so the new one is all that the plan gets.
  obtain ⟨before, unbounded, planned⟩ := plan_eq_ok_iff.1 built
  obtain rfl : before = none := by simpa [boundary, fresh, eq_comm] using unbounded
  obtain ⟨sort, size, scope, inScope, predicates⟩ := SearchRequest.plan_eq_ok_iff.1 planned
  refine plan_eq_ok_iff.2 ⟨some b, boundary_of_token rfl read, ?_⟩
  refine SearchRequest.plan_eq_ok_iff.2 ⟨sort, size, scope, inScope, ?_⟩
  simp [SearchPlan.from, predicates]

/-- The boundary of a request's token is the last condition of its statement. -/
theorem getLast?_conditions {r : SpanReader} {request : SearchRequest} {plan : SearchPlan}
    {token : PageToken} {b : Int64} (given : request.nextToken = some token)
    (read : token.boundary? = some b) (built : r.plan request = .ok plan) :
    plan.select.conditions.getLast? = some (.past plan.sort.column plan.direction b) := by
  obtain ⟨found, bounded, planned⟩ := plan_eq_ok_iff.1 built
  have : found = some b := by simpa [boundary_of_token given read, eq_comm] using bounded
  subst this
  obtain ⟨-, -, scope, -, predicates⟩ := SearchRequest.plan_eq_ok_iff.1 planned
  simp [SearchPlan.select, predicates, SearchPlan.clause_boundaryPredicate]

theorem search_eq_ok {r : SpanReader} {executor : Executor σ} {request : SearchRequest}
    {s after : Session σ} {page : SpanPage}
    (returned : r.search executor request s = (.ok page, after)) :
    ∃ plan, r.plan request = .ok plan ∧
      page = r.page plan (executor.fetch s.store plan.statement).1.rows := by
  unfold search at returned
  cases built : r.plan request with
  | error e => simp [built, Outcome.error, Outcome.ok] at returned
  | ok plan =>
    cases scope : r.scoped? s with
    | none => simp [built, scope, Outcome.ok] at returned
    | some deadline =>
      simp only [built, scope] at returned
      obtain ⟨rows, between, fetched, shown⟩ := Session.andThen_eq_ok returned
      obtain ⟨-, -, rfl⟩ := Session.fetch_eq_ok fetched
      cases shown
      exact ⟨plan, rfl, rfl⟩

theorem search_of_complete {r : SpanReader} {executor : Executor σ} {request : SearchRequest}
    {s : Session σ} {plan : SearchPlan} {rows : List Row} {store : σ}
    (built : r.plan request = .ok plan) (active : s.context.cancelled = false)
    (timed : (r.scoped? s).isSome)
    (answer : executor.fetch s.store plan.statement = (⟨rows, .complete, false⟩, store)) :
    ∃ after, r.search executor request s = (.ok (r.page plan rows), after) ∧
      after.store = store ∧ after.context = s.context ∧ after.now = s.now := by
  obtain ⟨deadline, scope⟩ := Option.isSome_iff_exists.1 timed
  unfold search
  simp only [built, scope]
  rw [Session.fetch_of_complete active answer]
  refine ⟨_, rfl, rfl, ?_, rfl⟩
  rw [← active]
  rfl

end SpanReader

end TraceQuery
