import TraceQuery.Proofs.Query.Plan

/-!
What of a request shows in the text of its statement: the operators of its filters, where their
tags are stored, how many values they list, what it is sorted by, and which bounds it has. Two
requests that agree in this have one text, whatever values and attribute names they hold.
-/

set_option autoImplicit false
namespace TraceQuery

open Sql (Operand Predicate joined whereText)

/-! ## Filters -/

/-- A location but for the path, which is bound. -/
def TagLocation.place : TagLocation → TagLocation
  | .column name => .column name
  | .attribute document _ => .attribute document ""
  | .element document _ => .element document ""

def Arity.sample (arity : Arity) (length : Nat) : Argument :=
  match arity with
  | .none => .none
  | .scalar => .scalar (.bool false)
  | .text => .text ""
  | .list => .list (List.replicate length (.bool false))

def listed : Option FilterValue → Nat
  | some (.list items) => items.length
  | _ => 0

structure FilterShape where
  operator : Operator
  place : TagLocation
  listed : Nat
  deriving DecidableEq

def FilterShape.text (s : FilterShape) : String :=
  (s.operator.predicate (s.operator.arity.sample s.listed) s.place).text

/-- Nothing for a filter without a predicate. -/
def SearchFilter.shape? (registry : Registry) (f : SearchFilter) : Option FilterShape :=
  match Operator.ofName? f.operator, registry.resolve f.key with
  | some o, .ok location => some ⟨o, location.place, listed f.value⟩
  | _, _ => none

theorem marks_eq_of_length {values others : List Sql.BindValue}
    (same : values.length = others.length) :
    Sql.Condition.marks values = Sql.Condition.marks others := by
  unfold Sql.Condition.marks
  rw [List.map_const', List.map_const', same]

theorem Operator.text_condition {o : Operator} {value : Option FilterValue} {argument : Argument}
    (accepted : o.argument? value = some argument) {x y : Operand} (named : x.value = y.value)
    (asked : x.presence = y.presence) :
    (o.condition argument).text x =
      (o.condition (o.arity.sample (listed value))).text y := by
  rcases argument?_cases accepted with ⟨shape, rfl, rfl⟩ | ⟨shape, s, rfl, rfl⟩ |
    ⟨shape, s, rfl, rfl⟩ | ⟨shape, item, items, rfl, rfl⟩
  · cases o <;> cases shape <;> simp [condition, Sql.Condition.text, asked]
  · cases o <;> cases shape <;> simp [condition, Sql.Condition.text, Arity.sample, arity, named]
  · cases o <;> cases shape <;> simp [condition, Sql.Condition.text, Arity.sample, arity, named]
  -- Of listed values only their number shows, as so many question marks.
  · have marks : Sql.Condition.marks ((item :: items).map Scalar.bindValue) =
        Sql.Condition.marks
          ((List.replicate (item :: items).length (.bool false)).map Scalar.bindValue) :=
      marks_eq_of_length (by simp)
    cases o <;> cases shape <;>
      simp only [condition, Sql.Condition.text, Arity.sample, arity, named, marks,
        listed]

theorem Operator.text_predicate {o : Operator} {value : Option FilterValue} {argument : Argument}
    (accepted : o.argument? value = some argument) (location : TagLocation) :
    (o.predicate argument location).text =
      FilterShape.text ⟨o, location.place, listed value⟩ := by
  cases location with
  | column name => exact text_condition accepted rfl rfl
  | «attribute» document path => exact text_condition accepted rfl rfl
  | element document path =>
    -- The elements are asked what the positive counterpart asks, which takes the same argument.
    have counterpart : o.positive.argument? value = some argument := by
      rw [argument?_positive, accepted]
    have inner := text_condition counterpart (x := Predicate.element path)
      (y := Predicate.element "") rfl rfl
    rw [arity_positive] at inner
    have texts : Predicate.existsText document path (o.positive.condition argument) =
        Predicate.existsText document ""
          (o.positive.condition (o.arity.sample (listed value))) := by
      unfold Predicate.existsText
      rw [inner]
    simp only [FilterShape.text, TagLocation.place, predicate]
    split
    · exact congrArg ("NOT " ++ ·) texts
    · exact texts

theorem SearchFilter.text_predicate {registry : Registry} {f : SearchFilter} {p : Predicate}
    (built : f.predicate registry = .ok p) :
    (f.shape? registry).map FilterShape.text = some p.text := by
  obtain ⟨o, argument, location, named, accepted, resolved, rfl⟩ := predicate_eq_ok_iff.1 built
  simp [shape?, named, resolved, Operator.text_predicate accepted]

theorem SearchFilter.texts_predicates {registry : Registry} {filters : List SearchFilter}
    {ps : List Predicate} (built : predicates registry filters = .ok ps) :
    (filters.map (·.shape? registry)).map (·.map FilterShape.text) =
      ps.map (some ∘ Predicate.text) := by
  have each := predicates_eq_ok_iff.1 built
  clear built
  induction each with
  | nil => rfl
  | cons first _ ih =>
    simp only [List.map_cons, text_predicate first, ih]
    rfl

/-! ## Scopes and statements -/

structure SameScope (registry : Registry) (filters others : List SearchFilter)
    (timeframe other : Option Timeframe) : Prop where
  filters : filters.map (·.shape? registry) = others.map (·.shape? registry)
  start : (timeframe.bind (·.start)).isSome = (other.bind (·.start)).isSome
  stop : (timeframe.bind (·.stop)).isSome = (other.bind (·.stop)).isSome

def boundTexts (start stop : Bool) : List String :=
  (if start then ["spans.start_time_unix_nano >= ?"] else []) ++
    if stop then ["spans.end_time_unix_nano <= ?"] else []

theorem texts_timeframePredicates (timeframe : Option Timeframe) :
    (timeframePredicates timeframe).map Predicate.text =
      boundTexts (timeframe.bind (·.start)).isSome (timeframe.bind (·.stop)).isSome := by
  cases timeframe with
  | none => rfl
  | some t =>
    obtain ⟨start, stop⟩ := t
    cases start <;> cases stop <;> rfl

variable {registry : Registry} {filters others : List SearchFilter}
  {timeframe other : Option Timeframe} {ps qs : List Predicate}

theorem SameScope.texts (same : SameScope registry filters others timeframe other)
    (built : scopePredicates registry filters timeframe = .ok ps)
    (built' : scopePredicates registry others other = .ok qs) :
    ps.map Predicate.text = qs.map Predicate.text := by
  obtain ⟨ps, first, rfl⟩ := scopePredicates_eq_ok_iff.1 built
  obtain ⟨qs, second, rfl⟩ := scopePredicates_eq_ok_iff.1 built'
  have asked : ps.map (some ∘ Predicate.text) = qs.map (some ∘ Predicate.text) := by
    rw [← SearchFilter.texts_predicates first, ← SearchFilter.texts_predicates second,
      same.filters]
  have texts : ps.map Predicate.text = qs.map Predicate.text := by
    rw [← List.map_map, ← List.map_map] at asked
    exact (List.map_inj_right fun _ _ => Option.some.inj).1 asked
  rw [List.map_append, List.map_append, texts, texts_timeframePredicates,
    texts_timeframePredicates, same.start, same.stop]

/-- Two searches of one shape. What they look for, their attribute names and limits may differ. -/
structure SearchRequest.SameShape (registry : Registry) (r r' : SearchRequest)
    (boundary boundary' : Option Int64) : Prop where
  scope : SameScope registry r.filters r'.filters r.timeframe r'.timeframe
  sort : r.effectiveSort = r'.effectiveSort
  bounded : boundary.isSome = boundary'.isSome

structure TagValuesRequest.SameShape (registry : Registry) (r r' : TagValuesRequest)
    (tag tag' : String) (maxValues maxValues' : Option UInt32) : Prop where
  scope : SameScope registry r.filters r'.filters r.timeframe r'.timeframe
  place : (registry.resolve tag).map TagLocation.place =
    (registry.resolve tag').map TagLocation.place
  limited : maxValues.isSome = maxValues'.isSome

theorem whereText_eq_of_texts (same : ps.map Predicate.text = qs.map Predicate.text) :
    whereText ps = whereText qs := by
  have empty : ps.isEmpty = qs.isEmpty := by
    simpa using congrArg List.isEmpty same
  rw [whereText, whereText, same, empty]

theorem texts_boundaryPredicate (sort : SortField) (direction : SortDirection)
    (boundary : Option Int64) :
    (boundary.map (boundaryPredicate sort direction)).toList.map Predicate.text =
      if boundary.isSome then [sort.column ++ " " ++ direction.past.symbol ++ " ?"] else [] := by
  cases boundary <;> rfl

namespace TagValuesPlan

theorem countedText_place (location : TagLocation) :
    countedText location.place = countedText location := by
  cases location <;> rfl

theorem sourceText_place (location : TagLocation) :
    sourceText location.place = sourceText location := by
  cases location <;> rfl

theorem limitText_eq (maxValues : Option UInt32) :
    limitText maxValues = if maxValues.isSome then " LIMIT ?" else "" := by
  cases maxValues <;> rfl

end TagValuesPlan

/-- Requests of one shape have one text, and one text for each of their conditions. -/
theorem sql_eq_of_sameShape (registry : Registry) :
    (∀ (r r' : SearchRequest) (boundary boundary' : Option Int64) (limits limits' : PageLimits)
        (plan plan' : SearchPlan),
      r.plan boundary registry limits = .ok plan →
      r'.plan boundary' registry limits' = .ok plan' →
      r.SameShape registry r' boundary boundary' →
      plan.statement.sql = plan'.statement.sql ∧
        plan.predicates.map Predicate.text = plan'.predicates.map Predicate.text) ∧
    (∀ (r r' : TagValuesRequest) (tag tag' : String) (maxValues maxValues' : Option UInt32)
        (plan plan' : TagValuesPlan),
      r.plan tag registry maxValues = .ok plan →
      r'.plan tag' registry maxValues' = .ok plan' →
      r.SameShape registry r' tag tag' maxValues maxValues' →
      plan.statement.sql = plan'.statement.sql ∧
        plan.predicates.map Predicate.text = plan'.predicates.map Predicate.text) := by
  constructor
  · intro r r' boundary boundary' limits limits' plan plan' built built' same
    obtain ⟨sort, -, scope, inScope, predicates⟩ := SearchRequest.plan_eq_ok_iff.1 built
    obtain ⟨sort', -, scope', inScope', predicates'⟩ := SearchRequest.plan_eq_ok_iff.1 built'
    have sorted : (plan.sort, plan.direction) = (plan'.sort, plan'.direction) :=
      Except.ok.inj (sort.symm.trans (same.sort.trans sort'))
    obtain ⟨field, direction⟩ := Prod.mk.inj sorted
    have texts : plan.predicates.map Predicate.text = plan'.predicates.map Predicate.text := by
      rw [predicates, predicates', List.map_append, List.map_append,
        same.scope.texts inScope inScope', texts_boundaryPredicate, texts_boundaryPredicate,
        field, direction, same.bounded]
    have order : plan.orderText = plan'.orderText := by
      unfold SearchPlan.orderText
      rw [field, direction]
    have sql : plan.statement.sql = plan'.statement.sql :=
      congrArg₂ ("SELECT " ++ joined ", " spanColumns ++ " FROM " ++ spansTable ++ · ++ ·)
        (whereText_eq_of_texts texts) order
    exact ⟨sql, texts⟩
  · open TagValuesPlan in
    intro r r' tag tag' maxValues maxValues' plan plan' built built' same
    obtain ⟨resolved, inScope, rfl⟩ := TagValuesRequest.plan_eq_ok_iff.1 built
    obtain ⟨resolved', inScope', rfl⟩ := TagValuesRequest.plan_eq_ok_iff.1 built'
    have texts := same.scope.texts inScope inScope'
    have place : plan.tag.place = plan'.tag.place := by
      have located := same.place
      rw [resolved, resolved'] at located
      exact Except.ok.inj located
    have counted : countedText plan.tag = countedText plan'.tag := by
      rw [← countedText_place, place, countedText_place]
    have source : sourceText plan.tag = sourceText plan'.tag := by
      rw [← sourceText_place, place, sourceText_place]
    refine ⟨?_, texts⟩
    simp only [statement, counted, source, whereText_eq_of_texts texts, limitText_eq, same.limited]

/-- Values and attribute names that look like SQL, beside harmless ones. -/
theorem sql_eq_of_sameShape_hostile :
    let registry : Registry := NameMap.empty.insert "span.name" ⟨.string, "spans.name"⟩
    let hostile : List SearchFilter :=
      [⟨"span.name", "contains", some (.scalar (.text "'; DROP TABLE spans; --"))⟩,
        ⟨"x') OR 1=1 --", "not_in", some (.list [.text "?", .text "? OR ?"])⟩,
        ⟨"event.') AS t WHERE 1=1 --", "not_exists", none⟩]
    let plain : List SearchFilter :=
      [⟨"span.name", "contains", some (.scalar (.text "GET"))⟩,
        ⟨"span.http.method", "not_in", some (.list [.integer 3, .bool true])⟩,
        ⟨"event.level", "not_exists", none⟩]
    let r : SearchRequest := ⟨hostile, some ⟨some 7, none⟩, none, none, some 20⟩
    let r' : SearchRequest :=
      ⟨plain, some ⟨some 0, none⟩, some ⟨"start_time", .descending⟩, none, none⟩
    let t : TagValuesRequest := ⟨hostile, none⟩
    let t' : TagValuesRequest := ⟨plain, some ⟨none, none⟩⟩
    ∃ plan plan' counted counted',
      r.plan (some 5) registry .standard = .ok plan ∧
      r'.plan (some (-1)) registry ⟨1, 1⟩ = .ok plan' ∧
      r.SameShape registry r' (some 5) (some (-1)) ∧
      (plan.statement.sql = plan'.statement.sql ∧
        plan.predicates.map Predicate.text = plan'.predicates.map Predicate.text) ∧
      t.plan "resource.', 1 --" registry (some 3) = .ok counted ∧
      t'.plan "resource.service" registry (some 4) = .ok counted' ∧
      t.SameShape registry t' "resource.', 1 --" "resource.service" (some 3) (some 4) ∧
      (counted.statement.sql = counted'.statement.sql ∧
        counted.predicates.map Predicate.text = counted'.predicates.map Predicate.text) := by
  intro registry hostile plain r r' t t'
  have shapes : hostile.map (·.shape? registry) = plain.map (·.shape? registry) := by decide +kernel
  have searches : r.SameShape registry r' (some 5) (some (-1)) :=
    ⟨⟨shapes, rfl, rfl⟩, rfl, rfl⟩
  have counts : t.SameShape registry t' "resource.', 1 --" "resource.service" (some 3) (some 4) :=
    ⟨⟨shapes, rfl, rfl⟩, by decide +kernel, rfl⟩
  have ⟨plan, built⟩ : ∃ plan, r.plan (some 5) registry .standard = .ok plan := ⟨_, rfl⟩
  have ⟨plan', built'⟩ : ∃ plan, r'.plan (some (-1)) registry ⟨1, 1⟩ = .ok plan := ⟨_, rfl⟩
  have ⟨counted, listed⟩ : ∃ plan, t.plan "resource.', 1 --" registry (some 3) = .ok plan :=
    ⟨_, rfl⟩
  have ⟨counted', listed'⟩ : ∃ plan, t'.plan "resource.service" registry (some 4) = .ok plan :=
    ⟨_, rfl⟩
  have same := sql_eq_of_sameShape registry
  exact ⟨plan, plan', counted, counted', built, built', searches,
    same.1 r r' _ _ _ _ plan plan' built built' searches, listed, listed', counts,
    same.2 t t' _ _ _ _ counted counted' listed listed' counts⟩

end TraceQuery
