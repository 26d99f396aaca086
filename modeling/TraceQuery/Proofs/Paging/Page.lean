import TraceQuery.Proofs.Paging.Traversal
import TraceQuery.Proofs.Reader.Outcome
import TraceQuery.Proofs.Reader.Rows

/-!
A page and the rows that it is made of. A row that is no span is told of with its position and its
error, and leaves the spans of the other rows as they are.
-/

set_option autoImplicit false
namespace TraceQuery

def SpanPage.outcomes (p : SpanPage) : List (Except RowError Span) :=
  SpanReader.outcomes p.spans (p.skipped.map fun row => (row.index, row.error))

def Row.IsBad (row : Row) : Prop :=
  ∃ e, Span.ofRow row = .error e

namespace SpanReader

variable {σ : Type} {r : SpanReader} {plan : SearchPlan} {less rows : List Row}

theorem outcomes_page (r : SpanReader) (plan : SearchPlan) (rows : List Row) :
    (r.page plan rows).outcomes = rows.map Span.ofRow := by
  have failed : (r.page plan rows).skipped.map (fun row => (row.index, row.error)) =
      failures Span.ofRow rows := by simp [page, Function.comp_def]
  rw [SpanPage.outcomes, failed]
  exact outcomes_eq Span.ofRow rows

theorem mem_skipped_page_iff {skipped : SkippedRow} :
    skipped ∈ (r.page plan rows).skipped ↔
      ∃ row, rows[skipped.index]? = some row ∧ Span.ofRow row = .error skipped.error := by
  rw [← mem_failures_iff, page, List.mem_map]
  constructor
  · rintro ⟨failure, member, rfl⟩
    exact member
  · exact fun member => ⟨_, member, rfl⟩

theorem pairwise_skipped_page (r : SpanReader) (plan : SearchPlan) (rows : List Row) :
    (r.page plan rows).skipped.Pairwise (·.index < ·.index) :=
  List.pairwise_map.2 (pairwise_failures Span.ofRow rows)

theorem isSome_nextToken_page_iff :
    (r.page plan rows).nextToken.isSome ↔ (r.page plan rows).spans ≠ [] ∧
      (r.settings.cursorPolicy = .fullPage → plan.pageSize.toNat ≤ rows.length) := by
  have offered : r.settings.cursorPolicy.offers rows.length plan.pageSize = true ↔
      (r.settings.cursorPolicy = .fullPage → plan.pageSize.toNat ≤ rows.length) := by
    cases r.settings.cursorPolicy <;> simp [CursorPolicy.offers]
  simp only [page, PageToken.next?_eq, ← offered]
  split
  · next offers => simp [offers, Option.isSome_iff_ne_none]
  · next refuses => simp [refuses]

theorem spans_page_of_thinned (r : SpanReader) (plan : SearchPlan)
    (thinned : Thinned Row.IsBad less rows) :
    (r.page plan less).spans = (r.page plan rows).spans := by
  refine thinned.filterMap_eq fun row bad => ?_
  obtain ⟨e, failed⟩ := bad
  simp [failed, Except.toOption]

theorem nextToken_page_of_thinned (policy : r.settings.cursorPolicy = .anyRows)
    (plan : SearchPlan) (thinned : Thinned Row.IsBad less rows) :
    (r.page plan less).nextToken = (r.page plan rows).nextToken := by
  have spans := r.spans_page_of_thinned plan thinned
  simp only [page] at spans
  simp only [page, PageToken.next?_eq, policy, CursorPolicy.offers, spans]

/--
A search that returns shows every row that it fetched once: as the next of its spans, or with its
position and its error among the skipped rows. The page has a token if it has a span and, where
pages have to be full, so many rows were fetched as a page may have. Rows that are no spans may be
missing from what the store gives: the search returns the same spans, and the same token where
pages need not be full.
-/
theorem bad_rows_affect_themselves {executor : Executor σ} {request : SearchRequest}
    {s after : Session σ} {page : SpanPage}
    (returned : r.search executor request s = (.ok page, after)) :
    ∃ plan, r.plan request = .ok plan ∧
      let rows := (executor.fetch s.store plan.statement).1.rows
      page.spans = rows.filterMap (fun row => (Span.ofRow row).toOption) ∧
      (∀ skipped, skipped ∈ page.skipped ↔
        ∃ row, rows[skipped.index]? = some row ∧ Span.ofRow row = .error skipped.error) ∧
      page.skipped.Pairwise (·.index < ·.index) ∧
      page.outcomes = rows.map Span.ofRow ∧
      (page.nextToken.isSome ↔ page.spans ≠ [] ∧
        (r.settings.cursorPolicy = .fullPage → plan.pageSize.toNat ≤ rows.length)) ∧
      ∀ {τ : Type} (store : Executor τ) (t : Session τ), t.Ready r →
        let answer := (store.fetch t.store plan.statement).1
        answer.ending = .complete → Thinned Row.IsBad answer.rows rows →
          ∃ other, (r.search store request t).1 = .ok other ∧ other.spans = page.spans ∧
            (r.settings.cursorPolicy = .anyRows → other.nextToken = page.nextToken) := by
  obtain ⟨plan, built, rfl⟩ := search_eq_ok returned
  refine ⟨plan, built, rfl, fun _ => mem_skipped_page_iff, r.pairwise_skipped_page plan _,
    r.outcomes_page plan _, isSome_nextToken_page_iff, ?_⟩
  intro τ store t ready answer complete thinned
  obtain ⟨deadline, timed⟩ := Option.isSome_iff_exists.1 ready.timed
  refine ⟨r.page plan answer.rows, ?_, r.spans_page_of_thinned plan thinned,
    fun policy => nextToken_page_of_thinned policy plan thinned⟩
  rw [outcome_search built timed ready.active, Execution.outcome_of_complete complete]
  rfl

/-- Two rows that are no spans, one of them before a span and one behind it, and a full page. -/
theorem bad_rows_affect_themselves_around :
    let r : SpanReader := ⟨.standard, { QuerySettings.standard with cursorPolicy := .fullPage }⟩
    let request : SearchRequest := { SearchRequest.standard with limit := some 3 }
    let good : Row := .timed "a" 5 1
    let rows : List Row := [⟨[]⟩, good, .timed "b" 3 (-1)]
    let s := Session.start [⟨rows, .complete, false⟩] .fresh 0
    let t := Session.start [⟨[good], .complete, false⟩] .fresh 0
    ∃ page after other, r.search .scripted request s = (.ok page, after) ∧
      page.skipped = [⟨0, .columnCount 24 0⟩, ⟨2, .outOfRange 13 (-1)⟩] ∧
      page.nextToken.isSome ∧ page.outcomes = rows.map Span.ofRow ∧
      (r.search .scripted request t).1 = .ok other ∧ other.spans = page.spans := by
  intro r request good rows s t
  let plan : SearchPlan := ⟨[], .startTime, .descending, 3⟩
  have built : r.plan request = .ok plan := rfl
  have answer : Executor.scripted.fetch s.store plan.statement =
      (⟨rows, .complete, false⟩, []) := rfl
  obtain ⟨after, returned, -⟩ := search_of_complete built rfl (by decide) answer
  obtain ⟨first, planned, -, -, -, outcomes, token, thinner⟩ := bad_rows_affect_themselves returned
  obtain rfl : plan = first := Except.ok.inj (built.symm.trans planned)
  have thinned : Thinned Row.IsBad [good] rows :=
    .drop ⟨_, rfl⟩ (.keep good (.drop ⟨.outOfRange 13 (-1), rfl⟩ .nil))
  obtain ⟨other, searched, spans, -⟩ := thinner .scripted t ⟨rfl, by decide⟩ rfl thinned
  refine ⟨_, after, other, returned, by decide +kernel, token.2 ⟨?_, fun _ => by decide⟩,
    outcomes, searched, spans⟩
  exact fun empty => absurd (congrArg List.length empty) (by decide +kernel)

end SpanReader

end TraceQuery
