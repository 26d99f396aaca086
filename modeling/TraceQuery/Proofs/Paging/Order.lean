import Mathlib.Data.List.Chain
import TraceQuery.Proofs.Query.Answer
import TraceQuery.Proofs.Reader.Search
import TraceQuery.Proofs.Span.OfRow

/-!
Pages that follow one another by their tokens. Whatever happens to the store between two calls,
the spans of a later page lie strictly past those of every earlier one.
-/

set_option autoImplicit false
namespace TraceQuery

/-- Rows that a store may give for a statement: each has an integer to be ordered by, lies past
the boundary that the last condition is, if it is one, and none comes before an earlier one. -/
structure Select.Admits (q : Select) (rows : List Row) : Prop where
  keyed : ∀ row ∈ rows, ∃ n, row.value q.order = .integer n
  past : ∀ direction b, q.conditions.getLast? = some (.past q.order direction b) →
    ∀ row ∈ rows, ∀ n, row.value q.order = .integer n → direction.Past n.toInt b.toInt
  ordered : rows.Pairwise fun x y => ∀ m n, x.value q.order = .integer m →
    y.value q.order = .integer n → ¬q.direction.Past m.toInt n.toInt

namespace SpanReader

theorem pairwise_successes {plan : SearchPlan} {rows : List Row}
    (admitted : plan.select.Admits rows) :
    (successes Span.ofRow rows).Pairwise fun x y =>
      ¬plan.direction.Past (x.sortValue plan.sort).toNat (y.sortValue plan.sort).toNat := by
  rw [successes, List.pairwise_filterMap]
  apply (List.Pairwise.and_mem.1 admitted.ordered).imp
  intro x y before s shown t other
  have first := toOption_eq_some_iff.1 shown
  have second := toOption_eq_some_iff.1 other
  obtain ⟨member, among, order⟩ := before
  obtain ⟨m, left⟩ := admitted.keyed x member
  obtain ⟨n, right⟩ := admitted.keyed y among
  -- A span has the sort value that its row is ordered by.
  rw [Span.sortValue_of_ofRow first left, Span.sortValue_of_ofRow second right]
  exact order m n left right

end SpanReader

structure SearchCall (σ : Type) where
  request : SearchRequest
  session : Session σ
  page : SpanPage

namespace SearchCall

variable {σ : Type}

def Made (r : SpanReader) (executor : Executor σ) (c : SearchCall σ) : Prop :=
  ∃ after, r.search executor c.request c.session = (.ok c.page, after)

def Answered (r : SpanReader) (executor : Executor σ) (c : SearchCall σ) : Prop :=
  ∀ plan, r.plan c.request = .ok plan →
    plan.select.Admits (executor.fetch c.session.store plan.select.statement).1.rows

def Continues (a b : SearchCall σ) : Prop :=
  ∃ token, a.page.nextToken = some token ∧ b.request.nextToken = some token

structure Regular (r : SpanReader) (executor : Executor σ) (sort : SortField)
    (direction : SortDirection) (c : SearchCall σ) : Prop where
  made : c.Made r executor
  answered : c.Answered r executor
  sorted : c.request.effectiveSort = .ok (sort, direction)

def Precedes (sort : SortField) (direction : SortDirection) (a b : SearchCall σ) : Prop :=
  ∀ x ∈ a.page.spans, ∀ y ∈ b.page.spans,
    direction.Past (y.sortValue sort).toNat (x.sortValue sort).toNat

def Leads (sort : SortField) (direction : SortDirection) (a b : SearchCall σ) : Prop :=
  a.page.spans ≠ [] ∧ a.Precedes sort direction b

variable {r : SpanReader} {executor : Executor σ} {sort : SortField} {direction : SortDirection}
  {a b c : SearchCall σ} {token : PageToken}

theorem Made.of_complete {plan : SearchPlan} {rows : List Row} {store : σ}
    (built : r.plan c.request = .ok plan) (active : c.session.context.cancelled = false)
    (timed : (r.scoped? c.session).isSome)
    (answer : executor.fetch c.session.store plan.statement = (⟨rows, .complete, false⟩, store))
    (shown : c.page = r.page plan rows) : c.Made r executor := by
  obtain ⟨after, returned, -⟩ := SpanReader.search_of_complete built active timed answer
  exact ⟨after, shown ▸ returned⟩

theorem Regular.rows (regular : c.Regular r executor sort direction) :
    ∃ plan rows, r.plan c.request = .ok plan ∧ plan.sort = sort ∧ plan.direction = direction ∧
      plan.select.Admits rows ∧ c.page = r.page plan rows ∧
      c.page.spans = SpanReader.successes Span.ofRow rows := by
  obtain ⟨after, returned⟩ := regular.made
  obtain ⟨plan, built, shown⟩ := SpanReader.search_eq_ok returned
  obtain ⟨b, -, planned⟩ := SpanReader.plan_eq_ok_iff.1 built
  obtain ⟨effective, -⟩ := SearchRequest.plan_eq_ok_iff.1 planned
  rw [regular.sorted] at effective
  cases effective
  have admitted := regular.answered plan built
  rw [SearchPlan.statement_select] at admitted
  exact ⟨plan, _, built, rfl, rfl, admitted, shown, congrArg SpanPage.spans shown⟩

/-- A token stands for the sort value of the last span, which no span of the page is past. -/
theorem Regular.boundary (regular : c.Regular r executor sort direction)
    (offered : c.page.nextToken = some token) :
    c.page.spans ≠ [] ∧ ∃ n, token.boundary? = some n ∧
      ∀ x ∈ c.page.spans, ¬direction.Past (x.sortValue sort).toNat n.toInt := by
  obtain ⟨plan, rows, -, rfl, rfl, admitted, shown, spans⟩ := regular.rows
  rw [shown] at offered
  obtain ⟨-, last, found, rfl⟩ := PageToken.next?_eq_some_iff.1 offered
  obtain ⟨row, among, read⟩ := SpanReader.mem_successes.1 (List.mem_of_getLast? found)
  obtain ⟨n, stored⟩ := admitted.keyed row among
  -- Rows left out behind the last span do not matter: the order is that of the spans.
  obtain ⟨front, split⟩ := List.getLast?_eq_some_iff.1 found
  have order := SpanReader.pairwise_successes admitted
  rw [spans]
  refine ⟨?_, n, PageToken.boundary?_of_ofRow read stored, ?_⟩
  · intro empty
    simp [empty] at split
  · intro x member
    rw [← Span.sortValue_of_ofRow read stored]
    rw [split] at order member
    rcases List.mem_append.1 member with member | member
    · exact (List.pairwise_append.1 order).2.2 x member last List.mem_cons_self
    · rw [List.mem_singleton.1 member]
      exact SortDirection.Past.irrefl

theorem Regular.past {n : Int64} (regular : c.Regular r executor sort direction)
    (carried : c.request.nextToken = some token) (boundary : token.boundary? = some n) :
    ∀ y ∈ c.page.spans, direction.Past (y.sortValue sort).toNat n.toInt := by
  obtain ⟨plan, rows, built, rfl, rfl, admitted, -, spans⟩ := regular.rows
  have condition := SpanReader.getLast?_conditions carried boundary built
  rw [spans]
  intro y member
  obtain ⟨row, among, read⟩ := SpanReader.mem_successes.1 member
  obtain ⟨m, stored⟩ := admitted.keyed row among
  rw [Span.sortValue_of_ofRow read stored]
  exact admitted.past _ _ condition row among m stored

theorem Continues.leads (continued : a.Continues b) (first : a.Regular r executor sort direction)
    (second : b.Regular r executor sort direction) : a.Leads sort direction b := by
  obtain ⟨token, offered, carried⟩ := continued
  obtain ⟨spans, n, boundary, before⟩ := first.boundary offered
  refine ⟨spans, ?_⟩
  intro x earlier y later
  have further := second.past carried boundary y later
  exact further.of_not_past (before x earlier)

-- A page that is followed has a span, through which the order passes on to the pages behind.
instance : IsTrans (SearchCall σ) (Leads sort direction) where
  trans a b c first second := by
    obtain ⟨y, middle⟩ := List.exists_mem_of_ne_nil _ second.1
    refine ⟨first.1, ?_⟩
    intro x earlier z later
    exact (second.2 y middle z later).trans (first.2 x earlier y middle)

theorem Precedes.disjoint (precedes : a.Precedes sort direction b) :
    a.page.spans.Disjoint b.page.spans := by
  intro x first second
  exact SortDirection.Past.irrefl (precedes x first x second)

/-- Along a chain of calls with one order, every page precedes all later ones, so no span is
returned twice. -/
theorem pages_never_overlap (r : SpanReader) (executor : Executor σ) (sort : SortField)
    (direction : SortDirection) (calls : List (SearchCall σ))
    (regular : ∀ c ∈ calls, c.Regular r executor sort direction)
    (continued : calls.IsChain Continues) :
    calls.Pairwise fun a b =>
      a.Precedes sort direction b ∧ a.page.spans.Disjoint b.page.spans := by
  have steps : calls.IsChain (Leads sort direction) := by
    apply continued.imp_of_mem_imp
    intro a b first second step
    exact step.leads (regular a first) (regular b second)
  apply (List.isChain_iff_pairwise.1 steps).imp
  intro a b leads
  exact ⟨leads.2, leads.2.disjoint⟩

/-- Between the calls a row has come in, and the limit has changed. -/
theorem pages_never_overlap_two :
    let r : SpanReader := ⟨.empty, .standard⟩
    let rows₁ := [Row.timed "a" 100 5, Row.timed "b" 90 (-1)]
    let rows₂ := [Row.timed "c" 95 1, Row.timed "b" 90 (-1), Row.timed "d" 80 2]
    let plan₁ : SearchPlan := ⟨[], .startTime, .descending, 2⟩
    let plan₂ : SearchPlan := { plan₁.from 100 with pageSize := 3 }
    let session (rows : List Row) : Session (List Execution) :=
      .start [⟨rows, .complete, false⟩] .fresh 0
    let calls : List (SearchCall (List Execution)) :=
      [ ⟨⟨[], none, none, none, some 2⟩, session rows₁, r.page plan₁ rows₁⟩
      , ⟨⟨[], none, none, some ⟨"100"⟩, some 3⟩, session rows₂, r.page plan₂ rows₂⟩ ]
    (∀ c ∈ calls, c.Regular r .scripted .startTime .descending) ∧ calls.IsChain Continues ∧
      calls.Pairwise fun a b =>
        a.Precedes .startTime .descending b ∧ a.page.spans.Disjoint b.page.spans := by
  intro r rows₁ rows₂ plan₁ plan₂ session calls
  have made : ∀ c ∈ calls, c.Made r .scripted := by
    simp only [calls, List.forall_mem_cons]
    exact ⟨.of_complete rfl rfl (by decide) rfl rfl, .of_complete rfl rfl (by decide) rfl rfl,
      by simp⟩
  have answered : ∀ c ∈ calls, c.Answered r .scripted := by
    simp only [calls, List.forall_mem_cons]
    refine ⟨?_, ?_, by simp⟩
    · intro plan built
      obtain rfl : plan₁ = plan := Except.ok.inj built
      have order : plan₁.select.order = SortField.startTime.column := rfl
      have way : plan₁.select.direction = .descending := rfl
      change plan₁.select.Admits rows₁
      constructor
      · simp [rows₁, order, Row.value_timed]
      · intro direction b last
        cases last
      · simp [rows₁, order, way, Row.value_timed, SortDirection.Past]
    · intro plan built
      obtain rfl : plan₂ = plan := Except.ok.inj built
      have order : plan₂.select.order = SortField.startTime.column := rfl
      have way : plan₂.select.direction = .descending := rfl
      change plan₂.select.Admits rows₂
      constructor
      · simp [rows₂, order, Row.value_timed]
      · intro direction b last
        have boundary : plan₂.select.conditions.getLast? =
            some (.past SortField.startTime.column .descending 100) := rfl
        obtain ⟨-, rfl, rfl⟩ := Clause.past_inj (Option.some.inj (boundary.symm.trans last))
        simp [rows₂, order, Row.value_timed, SortDirection.Past]
      · simp [rows₂, order, way, Row.value_timed, SortDirection.Past]
  have sorted : ∀ c ∈ calls, c.request.effectiveSort = .ok (.startTime, .descending) := by
    simp only [calls, List.forall_mem_cons]
    exact ⟨rfl, rfl, by simp⟩
  have continued : calls.IsChain Continues := by
    simp only [calls, List.isChain_cons_cons, List.isChain_singleton, and_true]
    exact ⟨⟨"100"⟩, by decide +kernel, rfl⟩
  have regular : ∀ c ∈ calls, c.Regular r .scripted .startTime .descending :=
    fun c member => ⟨made c member, answered c member, sorted c member⟩
  have apart := pages_never_overlap r .scripted .startTime .descending calls regular continued
  exact ⟨regular, continued, apart⟩

end SearchCall

end TraceQuery
