import TraceQuery.Proofs.Paging.Traversal
import TraceQuery.Proofs.Query.Parameters
import TraceQuery.Proofs.Reader.Outcome

/-!
A page's token is accepted by the next search, which goes on from the last span of the page. All
that a span is sorted by comes from stored integers, so its token is read as one of them.
-/

set_option autoImplicit false
namespace TraceQuery

open Sql (Predicate)

/-! ## What spans are sorted by -/

def Storable (n : UInt64) : Prop :=
  ∃ b : Int64, (n.toNat : Int) = b.toInt

namespace Storable

theorem zero : Storable 0 :=
  ⟨0, rfl⟩

theorem of_le {m n : UInt64} (stored : Storable n) (less : m ≤ n) : Storable m := by
  obtain ⟨b, same⟩ := stored
  have bound : (m.toNat : Int) ≤ b.toInt := by
    rw [← same]
    exact Int.ofNat_le.2 (UInt64.le_iff_toNat_le.1 less)
  refine ⟨.ofInt m.toNat, (Int64.toInt_ofInt_of_le ?_ ?_).symm⟩
  · exact Int.le_trans (by decide) (Int.natCast_nonneg _)
  · exact Int.lt_of_le_of_lt bound b.toInt_lt

end Storable

namespace Row

theorem storable_of_fitting {index : Nat} {n : Int64} {w : UInt64}
    (fits : fitting Word.uint64? index n = .ok w) : Storable w :=
  ⟨n, Word.uint64?_eq_some_iff.1 (fitting_eq_ok_iff.1 fits)⟩

theorem storable_of_uint64 {r : Row} {index : Nat} {w : UInt64} (read : r.uint64 index = .ok w) :
    Storable w := by
  obtain ⟨n, -, fits⟩ := bind_eq_ok.1 read
  exact storable_of_fitting fits

/-- A derived duration is at most the time of the end. -/
theorem storable_of_duration {r : Row} {startTime endTime w : UInt64} (stored : Storable endTime)
    (read : r.duration startTime endTime = .ok w) : Storable w := by
  obtain ⟨n?, -, given⟩ := bind_eq_ok.1 read
  cases n? with
  | some n => exact storable_of_fitting given
  | none =>
    simp only [Except.ok.injEq] at given
    subst given
    split
    · next ordered => exact stored.of_le (UInt64.sub_le ordered)
    · exact .zero

end Row

theorem Span.storable_sortValue {r : Row} {s : Span} (read : Span.ofRow r = .ok s)
    (sort : SortField) : Storable (s.sortValue sort) := by
  have holds := ofRow_eq_ok_iff.1 read
  have stop := Row.storable_of_uint64 holds.endTime
  cases sort with
  | startTime => exact Row.storable_of_uint64 holds.startTime
  | endTime => exact stop
  | duration => exact Row.storable_of_duration stop holds.duration
  | ingestionTime => exact Row.storable_of_uint64 holds.ingestionTime

def Row.untimed (id : String) (startTime endTime : Int64) : Row where
  columns :=
    [ .text id, .text "", .null, .null, .text "", .null, .integer startTime, .integer endTime
    , .null, .null, .null, .null, .null, .null, .integer 0, .null, .null, .null, .null, .null
    , .null, .null, .null, .null ]

theorem PageToken.boundary?_ofSortValue_of_storable {n : UInt64} (stored : Storable n) :
    ∃ b, (ofSortValue n).boundary? = some b ∧ b.toInt = n.toNat := by
  obtain ⟨b, same⟩ := stored
  exact ⟨b, boundary?_ofSortValue_of_eq same, same.symm⟩

/-! ## The search that a token is for -/

theorem text_boundaryPredicate (sort : SortField) (direction : SortDirection) (b : Int64) :
    (boundaryPredicate sort direction b).text = sort.column ++
      (match direction with
      | .descending => " < ?"
      | .ascending => " > ?") := by
  unfold boundaryPredicate Predicate.text Sql.Condition.text Sql.Operand.value
  cases direction <;>
    simp only [SortDirection.past, Sql.Comparison.symbol, String.append_assoc, String.reduceAppend]

namespace SearchPlan

theorem params_statement (plan : SearchPlan) :
    plan.statement.params = Sql.whereParams plan.predicates ++ [countParam plan.pageSize] :=
  rfl

theorem params_statement_from (first : SearchPlan) (b : Int64) :
    (first.from b).statement.params =
      Sql.whereParams first.predicates ++ [.integer b, countParam first.pageSize] := by
  rw [params_statement, SearchPlan.from, Sql.whereParams_append, List.append_assoc]
  rfl

end SearchPlan

namespace SpanReader

variable {σ : Type}

theorem plan_without_token {r : SpanReader} {request : SearchRequest} {plan : SearchPlan}
    (built : r.plan request = .ok plan) :
    ∃ first, r.plan { request with nextToken := none } = .ok first ∧
      first.sort = plan.sort ∧ request.effectiveSort = .ok (first.sort, first.direction) := by
  obtain ⟨_, -, planned⟩ := plan_eq_ok_iff.1 built
  obtain ⟨sort, size, scope, inScope, -⟩ := SearchRequest.plan_eq_ok_iff.1 planned
  refine ⟨{ plan with predicates := scope }, plan_eq_ok_iff.2 ⟨none, rfl, ?_⟩, rfl, sort⟩
  exact SearchRequest.plan_eq_ok_iff.2 ⟨sort, size, scope, inScope, by simp⟩

theorem nextToken_eq_some {r : SpanReader} {plan : SearchPlan} {rows : List Row}
    {token : PageToken} (offered : (r.page plan rows).nextToken = some token) :
    ∃ last, (r.page plan rows).spans.getLast? = some last ∧
      ∃ b, token.boundary? = some b ∧ b.toInt = (last.sortValue plan.sort).toNat := by
  obtain ⟨-, last, shown, rfl⟩ := PageToken.next?_eq_some_iff.1 offered
  obtain ⟨row, -, read⟩ := mem_successes.1 (List.mem_of_getLast? shown)
  exact ⟨last, shown,
    PageToken.boundary?_ofSortValue_of_storable (Span.storable_sortValue read plan.sort)⟩

/--
A page's token stands for the sort value of its last span. The search that goes on with it has the
plan of the search without a token and one more predicate, which is the last one: past that value.
Its one statement is issued whatever store it is put to.
-/
theorem token_resumes {r : SpanReader} {executor : Executor σ} {request : SearchRequest}
    {s after : Session σ} {page : SpanPage} {token : PageToken}
    (returned : r.search executor request s = (.ok page, after))
    (offered : page.nextToken = some token) :
    ∃ first last b past next,
      r.plan { request with nextToken := none } = .ok first ∧
      request.effectiveSort = .ok (first.sort, first.direction) ∧
      page.spans.getLast? = some last ∧
      token.boundary? = some b ∧ b.toInt = (last.sortValue first.sort).toNat ∧
      r.plan { request with nextToken := some token } = .ok next ∧
      next = { first with predicates := first.predicates ++ [past] } ∧
      past.text = first.sort.column ++
        (match first.direction with
        | .descending => " < ?"
        | .ascending => " > ?") ∧
      first.statement.params = Sql.whereParams first.predicates ++ [countParam first.pageSize] ∧
      next.statement.params =
        Sql.whereParams first.predicates ++ [.integer b, countParam first.pageSize] ∧
      ∀ {τ : Type} (store : Executor τ) (t : Session τ), t.Ready r →
        (r.search store { request with nextToken := some token } t).2.issued =
          t.issued ++ [next.statement] := by
  obtain ⟨plan, built, rfl⟩ := search_eq_ok returned
  obtain ⟨first, unbounded, sort, sorted⟩ := plan_without_token built
  obtain ⟨last, shown, b, boundary, value⟩ := nextToken_eq_some offered
  -- A request that carries a token has the plan of one without, up to the boundary.
  have unmarked : { request with nextToken := none }.nextToken = none := rfl
  have resumed := plan_of_token unmarked unbounded boundary
  refine ⟨first, last, b, boundaryPredicate first.sort first.direction b, first.from b, unbounded,
    sorted, shown, boundary, ?_, resumed, rfl, text_boundaryPredicate _ _ _,
    first.params_statement, first.params_statement_from b, ?_⟩
  · rw [sort, value]
  · intro τ store t ready
    exact issued_search resumed ready.timed ready.active store

/-- A duration that was not stored is what the next search goes on from. -/
theorem token_resumes_derived :
    let r : SpanReader := ⟨.standard, .standard⟩
    let sort : SortSpec := ⟨"duration", .descending⟩
    let request : SearchRequest := { SearchRequest.standard with sort := some sort }
    let s := Session.start [⟨[.untimed "a" 10 25], .complete, false⟩] .fresh 0
    let t := Session.start [Execution.noRows] .fresh 40
    ∃ page after token next, r.search .scripted request s = (.ok page, after) ∧
      page.nextToken = some token ∧ token.boundary? = some 15 ∧
      (r.search .scripted { request with nextToken := some token } t).2.issued = [next] ∧
      next.params = [.integer 15, countParam 100] := by
  intro r sort request s t
  let plan : SearchPlan := ⟨[], .duration, .descending, 100⟩
  have built : r.plan request = .ok plan := rfl
  have answer : Executor.scripted.fetch s.store plan.statement =
      (⟨[.untimed "a" 10 25], .complete, false⟩, []) := rfl
  obtain ⟨after, returned, -⟩ := search_of_complete built rfl (by decide) answer
  have offered : (r.page plan [.untimed "a" 10 25]).nextToken = some ⟨"15"⟩ := by decide +kernel
  obtain ⟨first, -, b, past, next, unbounded, -, -, boundary, -, -, -, -, -, params, issued⟩ :=
    token_resumes returned offered
  obtain rfl : plan = first := Except.ok.inj (built.symm.trans unbounded)
  have fifteen : PageToken.boundary? ⟨"15"⟩ = some 15 := by decide +kernel
  obtain rfl : 15 = b := Option.some.inj (fifteen.symm.trans boundary)
  exact ⟨_, after, ⟨"15"⟩, next.statement, returned, offered, fifteen,
    issued .scripted t ⟨rfl, by decide⟩, params⟩

end SpanReader

end TraceQuery
