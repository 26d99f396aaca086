import TraceQuery.Proofs.Paging.Walk
import TraceQuery.Proofs.Query.Answer
import TraceQuery.Proofs.Reader.Search

/-!
Following the tokens of a search from its first page to a page without one. Over a store that does
not change this reads the list of all matching rows in parts, and each page shows one part.
-/

set_option autoImplicit false
namespace TraceQuery

/-- The integer that a row is ordered by; zero stands for all else. -/
def Row.key (column : String) (row : Row) : Int :=
  match row.value column with
  | .integer n => n.toInt
  | _ => 0

theorem Row.key_eq {column : String} {row : Row} {n : Int64}
    (stored : row.value column = .integer n) : row.key column = n.toInt := by
  rw [key, stored]

def Row.Keyed (column : String) (rows : List Row) : Prop :=
  ∀ row ∈ rows, ∃ n, row.value column = .integer n

/-- A caller who has not cancelled, and to whom the clock can tell the deadline. -/
structure Session.Ready {σ : Type} (r : SpanReader) (s : Session σ) : Prop where
  active : s.context.cancelled = false
  timed : (r.scoped? s).isSome

namespace SpanReader

variable {σ : Type}

/-- The pages that a caller is given who follows the tokens until a page has none. -/
inductive Traversal (r : SpanReader) (executor : Executor σ) :
    SearchRequest → Session σ → List SpanPage → Prop
  | last {request : SearchRequest} {s after : Session σ} {page : SpanPage} :
      r.search executor request s = (.ok page, after) → page.nextToken = none →
      Traversal r executor request s [page]
  | next {request : SearchRequest} {s after : Session σ} {page : SpanPage} {token : PageToken}
      {pages : List SpanPage} :
      r.search executor request s = (.ok page, after) → page.nextToken = some token →
      Traversal r executor { request with nextToken := some token } after pages →
      Traversal r executor request s (page :: pages)

/-- Whatever token the request carries, the store answers from its rows and keeps them. -/
def Served (r : SpanReader) (executor : Executor σ) (e : Engine) (rows : σ → List Row)
    (request : SearchRequest) : Prop :=
  ∀ store token plan, r.plan { request with nextToken := token } = .ok plan →
    ∃ after, rows after = rows store ∧
      executor.fetch store plan.select.statement =
        (⟨plan.select.answer e (rows store), .complete, false⟩, after)

/-- A search from its first page on, over a store that answers it and does not change, and in which
every matching row has an integer to be ordered by. -/
structure Steady (r : SpanReader) (executor : Executor σ) (e : Engine) (rows : σ → List Row)
    (request : SearchRequest) (plan : SearchPlan) (s : Session σ) : Prop where
  fresh : request.nextToken = none
  built : r.plan request = .ok plan
  served : r.Served executor e rows request
  ready : s.Ready r
  keyed : Row.Keyed plan.sort.column (plan.select.ordered e (rows s.store))

def pager (r : SpanReader) (plan : SearchPlan) : Pager Row where
  good row := (Span.ofRow row).toOption.isSome
  key := Row.key plan.sort.column
  direction := plan.direction
  size := plan.pageSize.toNat
  offers fetched := r.settings.cursorPolicy.offers fetched plan.pageSize

theorem pager_full (r : SpanReader) (plan : SearchPlan) (n : Nat)
    (full : (r.pager plan).size ≤ n) : (r.pager plan).offers n := by
  unfold pager CursorPolicy.offers
  cases r.settings.cursorPolicy with
  | anyRows => rfl
  | fullPage => exact decide_eq_true full

theorem pairwise_key_ordered {plan : SearchPlan} {e : Engine} {stored : List Row}
    (keyed : Row.Keyed plan.sort.column (plan.select.ordered e stored)) :
    (plan.select.ordered e stored).Pairwise fun x y =>
      ¬plan.direction.Past (x.key plan.sort.column) (y.key plan.sort.column) := by
  apply (List.Pairwise.and_mem.1 (plan.select.pairwise_ordered e stored)).imp
  rintro x y ⟨first, second, before⟩
  obtain ⟨m, left⟩ := keyed x first
  obtain ⟨n, right⟩ := keyed y second
  rw [Row.key_eq left, Row.key_eq right]
  exact plan.select.not_past_of_inOrder e before left right

theorem getLast?_filterMap {α β : Type} (f : α → Option β) (l : List α) :
    (l.filterMap f).getLast? = (l.filter fun a => (f a).isSome).getLast?.bind f := by
  rw [List.getLast?_filterMap, List.getLast?_filter]
  induction l.reverse with
  | nil => rfl
  | cons a l ih => cases found : f a <;> simp [found, ih]

theorem nextToken_page (r : SpanReader) (plan : SearchPlan) (rows : List Row) :
    (r.page plan ((r.pager plan).part rows)).nextToken =
      if (r.pager plan).offers ((r.pager plan).part rows).length then
        ((r.pager plan).mark? rows).bind fun mark =>
          (Span.ofRow mark).toOption.map fun last => .ofSortValue (last.sortValue plan.sort)
      else none := by
  simp only [page, PageToken.next?_eq, successes, getLast?_filterMap, Option.map_bind]
  rfl

theorem nextToken_of_none {r : SpanReader} {plan : SearchPlan} {rows : List Row}
    (last : (r.pager plan).next? rows = none) :
    (r.page plan ((r.pager plan).part rows)).nextToken = none := by
  unfold Pager.next? at last
  rw [nextToken_page]
  split at last
  · rw [Option.map_eq_none_iff] at last
    simp [last]
  · next refused => rw [if_neg refused]

theorem nextToken_of_some {r : SpanReader} {plan : SearchPlan} {rows rest : List Row}
    (keyed : Row.Keyed plan.sort.column rows) (next : (r.pager plan).next? rows = some rest) :
    ∃ token mark b, (r.page plan ((r.pager plan).part rows)).nextToken = some token ∧
      token.boundary? = some b ∧ mark ∈ rows ∧ mark.value plan.sort.column = .integer b ∧
      (r.pager plan).beyond mark rows = rest := by
  obtain ⟨offered, mark, marked, beyond⟩ := (r.pager plan).next?_eq_some_iff.1 next
  have member := (r.pager plan).mem_of_mark? marked
  obtain ⟨last, read⟩ := Option.isSome_iff_exists.1 ((r.pager plan).mem_part_of_mark? marked).2
  obtain ⟨b, stored⟩ := keyed mark member
  refine ⟨.ofSortValue (last.sortValue plan.sort), mark, b, ?_, ?_, member, stored, beyond⟩
  · rw [nextToken_page, if_pos offered, marked, Option.bind_some, read, Option.map_some]
  · exact PageToken.boundary?_of_ofRow (toOption_eq_some_iff.1 read) stored

theorem Traversal.iff_of_search {r : SpanReader} {executor : Executor σ} {request : SearchRequest}
    {s after : Session σ} {page : SpanPage} {pages : List SpanPage}
    (returned : r.search executor request s = (.ok page, after)) :
    r.Traversal executor request s pages ↔
      (page.nextToken = none ∧ pages = [page]) ∨
        ∃ token rest, page.nextToken = some token ∧ pages = page :: rest ∧
          r.Traversal executor { request with nextToken := some token } after rest := by
  constructor
  · intro traversal
    cases traversal with
    | last found ended =>
      rw [returned] at found
      cases found
      exact .inl ⟨ended, rfl⟩
    | next found offered rest =>
      rw [returned] at found
      cases found
      exact .inr ⟨_, _, offered, rfl, rest⟩
  · rintro (⟨ended, rfl⟩ | ⟨token, rest, offered, rfl, others⟩)
    · exact .last returned ended
    · exact .next returned offered others

section
variable {r : SpanReader} {executor : Executor σ} {e : Engine} {rows : σ → List Row}
  {request : SearchRequest} {first : SearchPlan} {stored : List Row}

structure Stage (r : SpanReader) (e : Engine) (request : SearchRequest) (first : SearchPlan)
    (stored : List Row) (token : Option PageToken) (rest : List Row) : Prop where
  planned : ∃ predicates,
    r.plan { request with nextToken := token } = .ok { first with predicates } ∧
      (SearchPlan.select { first with predicates }).ordered e stored = rest
  member : rest ⊆ first.select.ordered e stored
  beyond : ∀ mark ∈ rest, (r.pager first).beyond mark (first.select.ordered e stored) =
    (r.pager first).beyond mark rest

theorem Stage.start (fresh : request.nextToken = none) (built : r.plan request = .ok first) :
    Stage r e request first stored none (first.select.ordered e stored) := by
  have same : { request with nextToken := none } = request := by rw [← fresh]
  refine ⟨⟨first.predicates, ?_, rfl⟩, fun _ member => member, fun _ _ => rfl⟩
  rw [same, built]

theorem Stage.search {token : Option PageToken} {rest : List Row} {s : Session σ}
    (stage : Stage r e request first (rows s.store) token rest)
    (steady : r.Steady executor e rows request first s) :
    ∃ after, r.search executor { request with nextToken := token } s =
        (.ok (r.page first ((r.pager first).part rest)), after) ∧
      rows after.store = rows s.store ∧ r.Steady executor e rows request first after := by
  obtain ⟨predicates, planned, ordered⟩ := stage.planned
  obtain ⟨store, kept, answer⟩ := steady.served s.store token _ planned
  rw [SearchPlan.statement_select] at answer
  obtain ⟨after, returned, same, context, now⟩ :=
    search_of_complete planned steady.ready.active steady.ready.timed answer
  have part : (SearchPlan.select { first with predicates }).answer e (rows s.store) =
      (r.pager first).part rest := by
    rw [Select.answer, ordered]
    rfl
  have ready : after.Ready r := by
    refine ⟨?_, ?_⟩
    · rw [context]
      exact steady.ready.active
    · rw [scoped?, context, now]
      exact steady.ready.timed
  have unchanged : rows after.store = rows s.store := by rw [same, kept]
  refine ⟨after, ?_, unchanged, steady.fresh, steady.built, steady.served, ready, ?_⟩
  · rw [returned, part]
    rfl
  · rw [unchanged]
    exact steady.keyed

theorem ordered_from (b : Int64)
    (keyed : Row.Keyed first.sort.column (first.select.ordered e stored)) :
    (first.from b).select.ordered e stored =
      (first.select.ordered e stored).filter fun row =>
        first.direction.Past (row.key first.sort.column) b.toInt := by
  have conditions : (first.from b).select = { first.select with
      conditions := first.select.conditions ++ [.past first.sort.column first.direction b] } := by
    simp [SearchPlan.from, SearchPlan.select, SearchPlan.clause_boundaryPredicate]
  rw [conditions, Select.ordered_concat]
  apply List.filter_congr
  intro row member
  obtain ⟨n, known⟩ := keyed row member
  rw [e.holds_past _ _ _ n row known, Row.key_eq known]

theorem Stage.of_boundary {token : PageToken} {b : Int64} (fresh : request.nextToken = none)
    (built : r.plan request = .ok first)
    (keyed : Row.Keyed first.sort.column (first.select.ordered e stored))
    (boundary : token.boundary? = some b) :
    Stage r e request first stored (some token)
      ((first.select.ordered e stored).filter fun row =>
        first.direction.Past (row.key first.sort.column) b.toInt) := by
  refine ⟨⟨_, plan_of_token fresh built boundary, ordered_from b keyed⟩, ?_, ?_⟩
  · exact List.filter_sublist.subset
  -- What is past a row that is itself past the boundary is past the boundary.
  · intro mark among
    have past : first.direction.Past (mark.key first.sort.column) b.toInt :=
      of_decide_eq_true (List.mem_filter.1 among).2
    rw [Pager.beyond, Pager.beyond, List.filter_filter]
    apply List.filter_congr
    intro row _
    have further : first.direction.Past (row.key first.sort.column) (mark.key first.sort.column) →
        first.direction.Past (row.key first.sort.column) b.toInt := fun second => second.trans past
    rw [Bool.eq_iff_iff, Bool.and_eq_true, decide_eq_true_eq, decide_eq_true_eq]
    exact ⟨fun second => ⟨second, further second⟩, And.left⟩

theorem Stage.next {token : Option PageToken} {rest : List Row} {next : PageToken}
    {mark : Row} {b : Int64} (stage : Stage r e request first stored token rest)
    (fresh : request.nextToken = none) (built : r.plan request = .ok first)
    (keyed : Row.Keyed first.sort.column (first.select.ordered e stored))
    (boundary : next.boundary? = some b) (member : mark ∈ rest)
    (value : mark.value first.sort.column = .integer b) :
    Stage r e request first stored (some next) ((r.pager first).beyond mark rest) := by
  have asked := Stage.of_boundary fresh built keyed boundary
  rw [← Row.key_eq value] at asked
  rw [← stage.beyond mark member]
  exact asked

-- Induction on the walk: the rows of a stage get fewer, while the sessions differ only in records.
theorem Stage.traversal_iff {token : Option PageToken} {rest : List Row} {s : Session σ}
    {pages : List SpanPage} (stage : Stage r e request first (rows s.store) token rest)
    (steady : r.Steady executor e rows request first s) :
    r.Traversal executor { request with nextToken := token } s pages ↔
      pages = ((r.pager first).walk rest).map (r.page first) := by
  induction rest using Pager.walk.induct (r.pager first) generalizing token s pages with
  | case1 rest last =>
    obtain ⟨after, returned, -⟩ := stage.search steady
    rw [Traversal.iff_of_search returned, nextToken_of_none last, Pager.walk_of_none _ last]
    simp
  | case2 rest others next ih =>
    obtain ⟨after, returned, kept, again⟩ := stage.search steady
    have keyed : Row.Keyed first.sort.column rest := fun row member =>
      steady.keyed row (stage.member member)
    obtain ⟨found, mark, b, offered, boundary, member, value, rfl⟩ := nextToken_of_some keyed next
    have later := stage.next steady.fresh steady.built steady.keyed boundary member value
    rw [← kept] at later
    rw [Traversal.iff_of_search returned, offered, Pager.walk_of_some _ next]
    simp only [reduceCtorEq, false_and, false_or, Option.some.injEq, List.map_cons]
    constructor
    · rintro ⟨_, _, rfl, rfl, traversal⟩
      rw [(ih later again).1 traversal]
    · rintro rfl
      exact ⟨_, _, rfl, rfl, (ih later again).2 rfl⟩

/-- A traversal shows the parts of the list of all matching rows, and nothing else. -/
theorem Steady.traversal_iff {s : Session σ} {pages : List SpanPage}
    (steady : r.Steady executor e rows request first s) :
    r.Traversal executor request s pages ↔
      pages =
        ((r.pager first).walk (first.select.ordered e (rows s.store))).map (r.page first) := by
  have same : { request with nextToken := none } = request := by rw [← steady.fresh]
  have stage : Stage r e request first (rows s.store) none _ := .start steady.fresh steady.built
  conv_lhs => rw [← same]
  exact stage.traversal_iff steady

theorem Steady.exists_traversal {s : Session σ}
    (steady : r.Steady executor e rows request first s) :
    ∃ pages, r.Traversal executor request s pages :=
  ⟨_, steady.traversal_iff.2 rfl⟩

end

end SpanReader

def Executor.plain (first : SearchPlan) : Executor (List Row) where
  fetch stored statement :=
    let asked := match statement.params with
      | [.integer b, _] => first.from b
      | _ => first
    (⟨asked.select.answer .plain stored, .complete, false⟩, stored)

theorem SpanReader.served_plain {r : SpanReader} {request : SearchRequest} {first : SearchPlan}
    (fresh : request.nextToken = none) (built : r.plan request = .ok first)
    (unfiltered : first.predicates = []) : r.Served (.plain first) .plain id request := by
  intro store token plan planned
  refine ⟨store, rfl, ?_⟩
  rw [SearchPlan.statement_select]
  cases token with
  | none =>
    have same : { request with nextToken := none } = request := by rw [← fresh]
    rw [same, built] at planned
    cases planned
    simp [Executor.plain, SearchPlan.statement, unfiltered, Sql.whereParams]
  | some token =>
    obtain ⟨b, bounded, -⟩ := plan_eq_ok_iff.1 planned
    cases boundary : token.boundary? with
    | none => simp [SpanReader.boundary, boundary] at bounded
    | some b =>
      rw [plan_of_token fresh built boundary] at planned
      cases planned
      simp [Executor.plain, SearchPlan.statement, SearchPlan.from, unfiltered, Sql.whereParams,
        boundaryPredicate, Sql.Predicate.params, Sql.Condition.params, Sql.Operand.params]

theorem SpanReader.Steady.plain {r : SpanReader} {request : SearchRequest} {first : SearchPlan}
    {s : Session (List Row)} (fresh : request.nextToken = none)
    (built : r.plan request = .ok first) (unfiltered : first.predicates = []) (ready : s.Ready r)
    (keyed : Row.Keyed first.sort.column (first.select.ordered .plain s.store)) :
    r.Steady (.plain first) .plain id request first s :=
  ⟨fresh, built, served_plain fresh built unfiltered, ready, keyed⟩

end TraceQuery
