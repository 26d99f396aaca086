import Mathlib.Data.List.Forall2
import TraceQuery.Query.Search
import TraceQuery.Query.TagValues

/-! When a request becomes a plan, and which plan it becomes. -/

set_option autoImplicit false
namespace TraceQuery

open Sql (Predicate)

theorem Operator.argument?_cases {o : Operator} {value : Option FilterValue} {argument : Argument}
    (accepted : o.argument? value = some argument) :
    (o.arity = .none ∧ value = none ∧ argument = .none) ∨
      (o.arity = .scalar ∧ ∃ s, value = some (.scalar s) ∧ argument = .scalar s) ∨
      (o.arity = .text ∧ ∃ s, value = some (.scalar (.text s)) ∧ argument = .text s) ∨
      (o.arity = .list ∧ ∃ item items, value = some (.list (item :: items)) ∧
        argument = .list (item :: items)) := by
  unfold argument? at accepted
  split at accepted <;> simp_all

theorem Operator.ofName?_name (o : Operator) : ofName? o.name = some o := by
  cases o <;> decide

theorem Operator.argument?_positive (o : Operator) : o.positive.argument? = o.argument? := by
  cases o <;> rfl

theorem Operator.arity_positive (o : Operator) : o.positive.arity = o.arity := by
  cases o <;> rfl

/-- A registered tag has its column; every other tag is an attribute of some source. -/
theorem Registry.resolve_cases {registry : Registry} {key : String} {location : TagLocation}
    (resolved : registry.resolve key = .ok location) :
    (∃ tag, registry.get? key = some tag ∧ location = .column tag.column) ∨
      ∃ source field, location = AttributeSource.location source field := by
  unfold resolve at resolved
  cases found : registry.get? key with
  | some tag =>
    simp only [found, Except.ok.injEq] at resolved
    exact .inl ⟨tag, rfl, resolved.symm⟩
  | none =>
    simp only [found] at resolved
    split at resolved
    · cases resolved
    · split at resolved
      · cases resolved
      · split at resolved
        · cases resolved
        · cases resolved
          -- Neither empty, nor quoted, nor without a name.
          exact .inr ⟨_, _, rfl⟩

namespace SearchFilter

theorem predicate_eq_ok_iff {registry : Registry} {f : SearchFilter} {p : Predicate} :
    f.predicate registry = .ok p ↔
      ∃ o argument location, Operator.ofName? f.operator = some o ∧
        o.argument? f.value = some argument ∧ registry.resolve f.key = .ok location ∧
        p = o.predicate argument location := by
  unfold predicate
  cases Operator.ofName? f.operator with
  | none => simp
  | some o =>
    cases accepted : o.argument? f.value with
    | none => simp [accepted]
    | some argument =>
      cases registry.resolve f.key with
      | error e => simp [accepted]
      | ok location => simp [accepted, eq_comm]

theorem predicates_eq_ok_iff {registry : Registry} {filters : List SearchFilter}
    {ps : List Predicate} :
    predicates registry filters = .ok ps ↔
      List.Forall₂ (fun f p => f.predicate registry = .ok p) filters ps := by
  induction filters generalizing ps with
  | nil => simp [predicates, eq_comm]
  | cons f rest ih =>
    rw [predicates]
    cases first : f.predicate registry with
    | error e => cases ps <;> simp [first]
    | ok p =>
      cases others : predicates registry rest with
      | error e => cases ps <;> simp [← ih, others]
      | ok qs => cases ps <;> simp [← ih, others, first]

theorem exists_of_mem_predicates {registry : Registry} {filters : List SearchFilter}
    {ps : List Predicate} (built : predicates registry filters = .ok ps) {p : Predicate}
    (member : p ∈ ps) : ∃ f ∈ filters, f.predicate registry = .ok p := by
  have each := predicates_eq_ok_iff.1 built
  clear built
  induction each with
  | nil => cases member
  | @cons f q filters ps first rest ih =>
    rcases List.mem_cons.1 member with rfl | member
    · exact ⟨f, List.mem_cons_self, first⟩
    · obtain ⟨g, among, one⟩ := ih member
      exact ⟨g, List.mem_cons_of_mem f among, one⟩

end SearchFilter

theorem mem_timeframePredicates {timeframe : Option Timeframe} {q : Predicate} :
    q ∈ timeframePredicates timeframe ↔
      ∃ t, timeframe = some t ∧
        ((∃ n, t.start = some n ∧ startBound n = q) ∨ ∃ n, t.stop = some n ∧ stopBound n = q) := by
  cases timeframe with
  | none => simp [timeframePredicates]
  | some t => simp [timeframePredicates, Timeframe.predicates]

theorem timeframePredicates_eq (timeframe : Option Timeframe) :
    timeframePredicates timeframe =
      ((timeframe.bind (·.start)).map startBound).toList ++
        ((timeframe.bind (·.stop)).map stopBound).toList := by
  cases timeframe <;> rfl

theorem scopePredicates_eq_ok_iff {registry : Registry} {filters : List SearchFilter}
    {timeframe : Option Timeframe} {ps : List Predicate} :
    scopePredicates registry filters timeframe = .ok ps ↔
      ∃ qs, SearchFilter.predicates registry filters = .ok qs ∧
        ps = qs ++ timeframePredicates timeframe := by
  unfold scopePredicates
  cases SearchFilter.predicates registry filters with
  | error e => simp
  | ok qs => simp [eq_comm]

theorem SearchRequest.effectivePageSize_eq_ok_iff {limit : Option UInt32} {limits : PageLimits}
    {size : UInt32} :
    effectivePageSize limit limits = .ok size ↔
      limit ≠ some 0 ∧ size = min (limit.getD limits.defaultSize) limits.maxSize := by
  unfold effectivePageSize
  cases limit with
  | none => simp [eq_comm]
  | some n =>
    by_cases zero : n = 0
    · simp [zero]
    · simp [zero, eq_comm]

theorem SearchRequest.plan_eq_ok_iff {r : SearchRequest} {boundary : Option Int64}
    {registry : Registry} {limits : PageLimits} {plan : SearchPlan} :
    r.plan boundary registry limits = .ok plan ↔
      r.effectiveSort = .ok (plan.sort, plan.direction) ∧
        effectivePageSize r.limit limits = .ok plan.pageSize ∧
        ∃ scope, scopePredicates registry r.filters r.timeframe = .ok scope ∧
          plan.predicates =
            scope ++ (boundary.map (boundaryPredicate plan.sort plan.direction)).toList := by
  obtain ⟨predicates, sort, direction, pageSize⟩ := plan
  unfold SearchRequest.plan
  cases r.effectiveSort with
  | error e => simp
  | ok sorted =>
    obtain ⟨field, way⟩ := sorted
    cases effectivePageSize r.limit limits with
    | error e => simp
    | ok size =>
      cases scopePredicates registry r.filters r.timeframe with
      | error e => simp
      | ok scope =>
        simp only [Except.ok.injEq, SearchPlan.mk.injEq, Prod.mk.injEq, exists_eq_left']
        constructor
        · rintro ⟨rfl, rfl, rfl, rfl⟩
          exact ⟨⟨rfl, rfl⟩, rfl, rfl⟩
        · rintro ⟨⟨rfl, rfl⟩, rfl, rfl⟩
          exact ⟨rfl, rfl, rfl, rfl⟩

/-- Where neither the default nor the greatest page is empty, no page is. -/
theorem SearchRequest.pageSize_pos {r : SearchRequest} {boundary : Option Int64}
    {registry : Registry} {limits : PageLimits} {plan : SearchPlan}
    (positive : 0 < limits.defaultSize ∧ 0 < limits.maxSize)
    (built : r.plan boundary registry limits = .ok plan) : 0 < plan.pageSize := by
  obtain ⟨-, size, -⟩ := plan_eq_ok_iff.1 built
  obtain ⟨nonzero, same⟩ := effectivePageSize_eq_ok_iff.1 size
  have wanted : 0 < r.limit.getD limits.defaultSize := by
    cases limit : r.limit with
    | none => exact positive.1
    | some n =>
      rw [limit] at nonzero
      exact UInt32.pos_iff_ne_zero.2 fun zero => nonzero (congrArg some zero)
  rw [same]
  rcases Std.min_eq_or (a := r.limit.getD limits.defaultSize) (b := limits.maxSize)
    with first | second
  · rwa [first]
  · rw [second]
    exact positive.2

theorem TagValuesRequest.plan_eq_ok_iff {r : TagValuesRequest} {tag : String} {registry : Registry}
    {maxValues : Option UInt32} {plan : TagValuesPlan} :
    r.plan tag registry maxValues = .ok plan ↔
      registry.resolve tag = .ok plan.tag ∧
        scopePredicates registry r.filters r.timeframe = .ok plan.predicates ∧
        plan.maxValues = maxValues := by
  obtain ⟨location, predicates, limit⟩ := plan
  unfold TagValuesRequest.plan
  cases registry.resolve tag with
  | error e => simp
  | ok found =>
    cases scopePredicates registry r.filters r.timeframe with
    | error e => simp
    | ok scope => simp [eq_comm]

end TraceQuery
