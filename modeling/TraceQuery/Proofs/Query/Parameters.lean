import TraceQuery.Proofs.Query.Plan
import TraceQuery.Proofs.Sql.Filled

/-!
The parameters of a statement, as the request lists them: the paths and values of its filters in
order, then the bounds of its timeframe, then what limits the result. Each of them stands at the
placeholder that is its own.
-/

set_option autoImplicit false
namespace TraceQuery

open Sql (BindValue Predicate Filled Fills IsPlain literal filledWhere placeholders)

/-! ## What a request binds -/

/-- A negative condition names the attribute twice, except on the elements of an array. -/
def Operator.pathParams (o : Operator) : TagLocation → List BindValue
  | .column _ => []
  | .attribute _ path =>
    if o = .notIn ∨ o = .notContains then [.text path, .text path] else [.text path]
  | .element _ path => [.text path]

def Operator.valueParams (o : Operator) : Option FilterValue → List BindValue
  | none => []
  | some (.list items) => items.map Scalar.bindValue
  | some (.scalar (.text s)) =>
    if o = .contains ∨ o = .notContains then [.text (Sql.Like.containing s)] else [.text s]
  | some (.scalar s) => [s.bindValue]

def SearchFilter.params (registry : Registry) (f : SearchFilter) : List BindValue :=
  match Operator.ofName? f.operator, registry.resolve f.key with
  | some o, .ok location => o.pathParams location ++ o.valueParams f.value
  | _, _ => []

def timeframeParams (timeframe : Option Timeframe) : List BindValue :=
  let bound (n : Option UInt64) : List BindValue := (n.map fun n => .integer (saturated n)).toList
  bound (timeframe.bind (·.start)) ++ bound (timeframe.bind (·.stop))

def Registry.tagParams (registry : Registry) (tag : String) : List BindValue :=
  match registry.resolve tag with
  | .ok (.attribute _ path) | .ok (.element _ path) => [.text path]
  | .ok (.column _) | .error _ => []

def countParam (n : UInt32) : BindValue :=
  .integer (Int64.ofNat n.toNat)

/-! ## What predicates bind -/

theorem Operator.params_condition {o : Operator} {value : Option FilterValue} {argument : Argument}
    (accepted : o.argument? value = some argument) (operand : Sql.Operand) :
    (o.condition argument).params operand =
      (if o = .notIn ∨ o = .notContains then operand.params ++ operand.params
        else operand.params) ++ o.valueParams value := by
  rcases argument?_cases accepted with ⟨shape, rfl, rfl⟩ | ⟨shape, s, rfl, rfl⟩ |
    ⟨shape, s, rfl, rfl⟩ | ⟨shape, item, items, rfl, rfl⟩
  · cases o <;> cases shape <;> simp [condition, Sql.Condition.params, valueParams]
  · cases o <;> cases shape <;> cases s <;> rfl
  · cases o <;> cases shape <;> simp [condition, Sql.Condition.params, valueParams]
  · cases o <;> cases shape <;> simp [condition, Sql.Condition.params, valueParams]

theorem Operator.valueParams_positive (o : Operator) : o.positive.valueParams = o.valueParams := by
  cases o <;> rfl

theorem Operator.params_predicate {o : Operator} {value : Option FilterValue} {argument : Argument}
    (accepted : o.argument? value = some argument) (location : TagLocation) :
    (o.predicate argument location).params = o.pathParams location ++ o.valueParams value := by
  cases location with
  | column name =>
    simp [predicate, Predicate.params, params_condition accepted, pathParams, Sql.Operand.params]
  | «attribute» column path =>
    simp [predicate, Predicate.params, params_condition accepted, pathParams, Sql.Operand.params]
  -- A negative condition on elements denies the positive one, which names its path once.
  | element column path =>
    have counterpart : o.positive.argument? value = some argument := by
      rw [argument?_positive, accepted]
    have once : ¬(o.positive = .notIn ∨ o.positive = .notContains) := by
      cases o <;> decide
    have inner := params_condition counterpart (Predicate.element path)
    rw [if_neg once, valueParams_positive] at inner
    rw [predicate]
    split <;> exact inner

theorem SearchFilter.params_predicate {registry : Registry} {f : SearchFilter} {p : Predicate}
    (built : f.predicate registry = .ok p) : p.params = f.params registry := by
  obtain ⟨o, argument, location, named, accepted, resolved, rfl⟩ := predicate_eq_ok_iff.1 built
  rw [Operator.params_predicate accepted, params, named, resolved]

theorem SearchFilter.whereParams_predicates {registry : Registry} {filters : List SearchFilter}
    {ps : List Predicate} (built : predicates registry filters = .ok ps) :
    Sql.whereParams ps = filters.flatMap (·.params registry) := by
  have each := predicates_eq_ok_iff.1 built
  clear built
  induction each with
  | nil => rfl
  | cons first _ ih =>
    rw [Sql.whereParams] at ih ⊢
    rw [List.flatMap_cons, List.flatMap_cons, params_predicate first, ih]

theorem whereParams_timeframePredicates (timeframe : Option Timeframe) :
    Sql.whereParams (timeframePredicates timeframe) = timeframeParams timeframe := by
  cases timeframe with
  | none => rfl
  | some t =>
    obtain ⟨start, stop⟩ := t
    cases start <;> cases stop <;> rfl

theorem whereParams_scopePredicates {registry : Registry} {filters : List SearchFilter}
    {timeframe : Option Timeframe} {ps : List Predicate}
    (built : scopePredicates registry filters timeframe = .ok ps) :
    Sql.whereParams ps = filters.flatMap (·.params registry) ++ timeframeParams timeframe := by
  obtain ⟨qs, asked, rfl⟩ := scopePredicates_eq_ok_iff.1 built
  rw [Sql.whereParams_append, SearchFilter.whereParams_predicates asked,
    whereParams_timeframePredicates]

/-! ## The columns that predicates are about -/

def TagLocation.source : TagLocation → String
  | .column name => name
  | .attribute document _ | .element document _ => document

theorem AttributeSource.source_location (source : AttributeSource) (field : String) :
    (source.location field).source = source.column := by
  cases source <;> rfl

theorem Operator.source_predicate (o : Operator) (argument : Argument) (location : TagLocation) :
    (o.predicate argument location).source = location.source := by
  cases location with
  | column name => rfl
  | «attribute» column path => rfl
  | element column path =>
    rw [predicate]
    split <;> rfl

def ownColumns : List String :=
  AttributeSource.all.map AttributeSource.column ++ SortField.all.map SortField.column

theorem AttributeSource.column_mem_ownColumns (source : AttributeSource) :
    source.column ∈ ownColumns := by
  cases source <;> decide

theorem SortField.column_mem_ownColumns (sort : SortField) : sort.column ∈ ownColumns := by
  cases sort <;> decide

section Columns

variable {registry : Registry} {P : String → Prop}
  (registered : ∀ entry ∈ registry.entries, P entry.2.column) (own : ∀ c ∈ ownColumns, P c)
include registered own

theorem Registry.source_of_resolve {key : String} {location : TagLocation}
    (resolved : registry.resolve key = .ok location) : P location.source := by
  obtain ⟨tag, found, rfl⟩ | ⟨source, field, rfl⟩ := resolve_cases resolved
  · obtain ⟨before, after, entries, -⟩ := List.lookup_eq_some_iff.1 found
    exact registered (key, tag) (by simp [entries])
  -- The key is in the path only; the column is one of the five that sources have.
  · rw [AttributeSource.source_location]
    exact own _ source.column_mem_ownColumns

omit registered in
theorem source_of_timeframePredicates (timeframe : Option Timeframe) :
    ∀ p ∈ timeframePredicates timeframe, P p.source := by
  intro p member
  obtain ⟨t, -, ⟨n, -, rfl⟩ | ⟨n, -, rfl⟩⟩ := mem_timeframePredicates.1 member
  · exact own _ SortField.startTime.column_mem_ownColumns
  · exact own _ SortField.endTime.column_mem_ownColumns

theorem source_of_scopePredicates {filters : List SearchFilter} {timeframe : Option Timeframe}
    {ps : List Predicate} (built : scopePredicates registry filters timeframe = .ok ps) :
    ∀ p ∈ ps, P p.source := by
  obtain ⟨qs, asked, rfl⟩ := scopePredicates_eq_ok_iff.1 built
  intro p member
  rcases List.mem_append.1 member with member | member
  · obtain ⟨f, -, one⟩ := SearchFilter.exists_of_mem_predicates asked member
    obtain ⟨o, argument, location, -, -, resolved, rfl⟩ := SearchFilter.predicate_eq_ok_iff.1 one
    rw [Operator.source_predicate]
    exact registry.source_of_resolve registered own resolved
  · exact source_of_timeframePredicates own timeframe p member

/-- What holds of the registered columns and of those that are always there holds of every column
that a search asks about. -/
theorem SearchRequest.source_of_plan {r : SearchRequest} {boundary : Option Int64}
    {limits : PageLimits} {plan : SearchPlan} (built : r.plan boundary registry limits = .ok plan) :
    ∀ p ∈ plan.predicates, P p.source := by
  obtain ⟨-, -, scope, inScope, predicates⟩ := plan_eq_ok_iff.1 built
  intro p member
  rw [predicates, List.mem_append] at member
  cases member with
  | inl member => exact source_of_scopePredicates registered own inScope p member
  | inr member =>
    cases boundary with
    | none => cases member
    | some b =>
      rw [List.mem_singleton.1 member]
      exact own _ plan.sort.column_mem_ownColumns

end Columns

/-! ## Columns that bring in no placeholder -/

/-- No registered column has a question mark in its text. -/
def Registry.IsPlain (registry : Registry) : Prop :=
  ∀ entry ∈ registry.entries, Sql.IsPlain entry.2.column

instance (registry : Registry) : Decidable registry.IsPlain :=
  inferInstanceAs (Decidable (∀ entry ∈ registry.entries, Sql.IsPlain entry.2.column))

theorem isPlain_ownColumns : ∀ c ∈ ownColumns, Sql.IsPlain c := by
  decide

/-! ## Whole statements -/

namespace SearchPlan

def filled (plan : SearchPlan) : Filled :=
  literal ("SELECT " ++ Sql.joined ", " spanColumns ++ " FROM " ++ spansTable) ++
    filledWhere plan.predicates ++
    (literal (" ORDER BY " ++ plan.sort.column ++ " " ++ plan.direction.keyword ++
        ", spans.span_id " ++ plan.direction.keyword) ++
      (literal " LIMIT " ++ [.inr (countParam plan.pageSize)]))

theorem isPlain_select :
    Sql.IsPlain ("SELECT " ++ Sql.joined ", " spanColumns ++ " FROM " ++ spansTable) := by
  have select : Sql.IsPlain "SELECT " := by decide
  have comma : Sql.IsPlain ", " := by decide
  have columns : Sql.IsPlain (Sql.joined ", " spanColumns) := comma.joined (by decide +kernel)
  have table : Sql.IsPlain " FROM " := by decide
  exact ((select.append columns).append table).append (by decide)

theorem isPlain_order (sort : SortField) (direction : SortDirection) :
    Sql.IsPlain (" ORDER BY " ++ sort.column ++ " " ++ direction.keyword ++ ", spans.span_id " ++
      direction.keyword) := by
  have order : Sql.IsPlain " ORDER BY " := by decide
  have blank : Sql.IsPlain " " := by decide
  have second : Sql.IsPlain ", spans.span_id " := by decide
  have keyword : Sql.IsPlain direction.keyword := by
    cases direction <;> decide
  have column := isPlain_ownColumns _ sort.column_mem_ownColumns
  have first := ((order.append column).append blank).append keyword
  exact (first.append second).append keyword

theorem filled?_statement {plan : SearchPlan}
    (plain : ∀ p ∈ plan.predicates, Sql.IsPlain p.source) :
    plan.statement.filled? = some plan.filled := by
  have size : Fills " LIMIT ?" [countParam plan.pageSize]
      (literal " LIMIT " ++ [.inr (countParam plan.pageSize)]) := rfl
  have order := (Fills.literal (isPlain_order plan.sort plan.direction)).append size
  exact ((Fills.literal isPlain_select).append (Sql.fills_whereText plain)).append order

end SearchPlan

namespace TagValuesPlan

def filledCounted : TagLocation → Filled
  | .column name => literal name
  | .attribute document path => Sql.Operand.filledCall "json_extract(" document path
  | .element _ path => Sql.Operand.filledCall "json_extract(" "tag_item.value" path

def filledLimit : Option UInt32 → Filled
  | none => []
  | some n => literal " LIMIT " ++ [.inr (countParam n)]

def filled (plan : TagValuesPlan) : Filled :=
  literal "SELECT " ++ filledCounted plan.tag ++
    literal " AS tag_value, COUNT(*) AS tag_count FROM " ++ literal (sourceText plan.tag) ++
    filledWhere plan.predicates ++
    literal " GROUP BY tag_value HAVING tag_value IS NOT NULL ORDER BY tag_count DESC" ++
    filledLimit plan.maxValues

theorem fills_countedText {location : TagLocation} (plain : Sql.IsPlain location.source) :
    Fills (countedText location) (countedParams location) (filledCounted location) := by
  cases location with
  | column name => exact .literal plain
  | «attribute» document path => exact Sql.Operand.fills_call path (by decide) plain
  | element column path =>
    have item : Fills ("json_extract(" ++ "tag_item.value" ++ ", ?)") [.text path]
        (Sql.Operand.filledCall "json_extract(" "tag_item.value" path) :=
      Sql.Operand.fills_call path (by decide) (by decide)
    exact item

theorem fills_limitText (maxValues : Option UInt32) :
    Fills (limitText maxValues) (limitParams maxValues) (filledLimit maxValues) := by
  cases maxValues with
  | none => rfl
  | some n =>
    have limit : Fills " LIMIT ?" [countParam n] (literal " LIMIT " ++ [.inr (countParam n)]) := rfl
    exact limit

theorem isPlain_sourceText {location : TagLocation} (plain : Sql.IsPlain location.source) :
    Sql.IsPlain (sourceText location) := by
  have table : Sql.IsPlain spansTable := by decide
  cases location with
  | column name => exact table
  | «attribute» document path => exact table
  | element column path =>
    have each : Sql.IsPlain ", json_each(" := by decide
    have item : Sql.IsPlain ") AS tag_item" := by decide
    exact ((table.append each).append plain).append item

theorem filled?_statement {plan : TagValuesPlan} (located : Sql.IsPlain plan.tag.source)
    (plain : ∀ p ∈ plan.predicates, Sql.IsPlain p.source) :
    plan.statement.filled? = some plan.filled := by
  have select : Sql.IsPlain "SELECT " := by decide
  have counts : Sql.IsPlain " AS tag_value, COUNT(*) AS tag_count FROM " := by decide
  have group : Sql.IsPlain
      " GROUP BY tag_value HAVING tag_value IS NOT NULL ORDER BY tag_count DESC" := by decide
  have counted := (Fills.literal select).append (fills_countedText located)
  have source := (counted.append (.literal counts)).append (.literal (isPlain_sourceText located))
  have inScope := (source.append (Sql.fills_whereText plain)).append (.literal group)
  have whole := inScope.append (fills_limitText plan.maxValues)
  simp only [List.nil_append, List.append_nil] at whole
  exact whole

end TagValuesPlan

/-- Both kinds of statement have as many placeholders as parameters, carry exactly the listed
parameters, and have each of them in its place. -/
theorem statements_carry_listed_params (registry : Registry) (plain : registry.IsPlain) :
    (∀ (request : SearchRequest) (boundary : Option Int64) (limits : PageLimits)
        (plan : SearchPlan), request.plan boundary registry limits = .ok plan →
      placeholders plan.statement.sql = plan.statement.params.length ∧
      plan.statement.params =
        request.filters.flatMap (·.params registry) ++ timeframeParams request.timeframe ++
          (boundary.map .integer).toList ++
          [countParam (min (request.limit.getD limits.defaultSize) limits.maxSize)] ∧
      plan.statement.filled? = some plan.filled) ∧
    (∀ (request : TagValuesRequest) (tag : String) (maxValues : Option UInt32)
        (plan : TagValuesPlan), request.plan tag registry maxValues = .ok plan →
      placeholders plan.statement.sql = plan.statement.params.length ∧
      plan.statement.params =
        registry.tagParams tag ++ request.filters.flatMap (·.params registry) ++
          timeframeParams request.timeframe ++ (maxValues.map countParam).toList ∧
      plan.statement.filled? = some plan.filled) := by
  constructor
  · intro request boundary limits plan built
    have filled : plan.statement.filled? = some plan.filled :=
      SearchPlan.filled?_statement (SearchRequest.source_of_plan plain isPlain_ownColumns built)
    obtain ⟨-, size, scope, inScope, predicates⟩ := SearchRequest.plan_eq_ok_iff.1 built
    refine ⟨Sql.Statement.placeholders_of_filled filled, ?_, filled⟩
    have bound :
        Sql.whereParams (boundary.map (boundaryPredicate plan.sort plan.direction)).toList =
          (boundary.map .integer).toList := by
      cases boundary <;> rfl
    have params : plan.statement.params =
        Sql.whereParams plan.predicates ++ [countParam plan.pageSize] := rfl
    rw [params, predicates, Sql.whereParams_append, whereParams_scopePredicates inScope, bound,
      (SearchRequest.effectivePageSize_eq_ok_iff.1 size).2]
  · intro request tag maxValues plan built
    obtain ⟨resolved, inScope, rfl⟩ := TagValuesRequest.plan_eq_ok_iff.1 built
    have filled := TagValuesPlan.filled?_statement
      (registry.source_of_resolve plain isPlain_ownColumns resolved)
      (source_of_scopePredicates plain isPlain_ownColumns inScope)
    refine ⟨Sql.Statement.placeholders_of_filled filled, ?_, filled⟩
    -- The counted tag stands before the conditions in the text, and so do its parameters.
    have counted : TagValuesPlan.countedParams plan.tag = registry.tagParams tag := by
      rw [Registry.tagParams, resolved]
      cases plan.tag <;> rfl
    have limited :
        TagValuesPlan.limitParams plan.maxValues = (plan.maxValues.map countParam).toList := rfl
    have params : plan.statement.params = TagValuesPlan.countedParams plan.tag ++
        Sql.whereParams plan.predicates ++ TagValuesPlan.limitParams plan.maxValues := rfl
    rw [params, whereParams_scopePredicates inScope, counted, limited]
    simp only [List.append_assoc]

/-- A registered column, an attribute named twice and an element of an array, under a boundary. -/
theorem statements_carry_listed_params_mixed :
    let registry : Registry := NameMap.empty.insert "span.name" ⟨.string, "spans.name"⟩
    let filters : List SearchFilter :=
      [⟨"span.name", "contains", some (.scalar (.text "50%"))⟩,
        ⟨"http.method", "not_in", some (.list [.text "GET", .text "PUT"])⟩,
        ⟨"event.level", "not_contains", some (.scalar (.text "x"))⟩]
    let request : SearchRequest := ⟨filters, some ⟨some 7, none⟩, none, none, some 20⟩
    let plan : SearchPlan :=
      ⟨[.test (.column "spans.name") (.like "%50\\%%"),
          .test (.member "spans.span_attributes" "$.\"http.method\"")
            (.notIn [.text "GET", .text "PUT"]),
          .noElement "spans.events" "$.attributes.\"level\"" (.like "%x%"),
          startBound 7, boundaryPredicate .startTime .descending 5],
        .startTime, .descending, 20⟩
    registry.IsPlain ∧ request.plan (some 5) registry .standard = .ok plan ∧
      placeholders plan.statement.sql = plan.statement.params.length ∧
      plan.statement.params =
        [.text "%50\\%%", .text "$.\"http.method\"", .text "$.\"http.method\"", .text "GET",
          .text "PUT", .text "$.attributes.\"level\"", .text "%x%", .integer 7, .integer 5,
          .integer 20] ∧
      plan.statement.filled? = some plan.filled := by
  intro registry filters request plan
  have plain : registry.IsPlain := by decide
  have built : request.plan (some 5) registry .standard = .ok plan := rfl
  have ⟨count, params, filled⟩ :=
    (statements_carry_listed_params registry plain).1 request (some 5) .standard plan built
  exact ⟨plain, built, count, params.trans rfl, filled⟩

end TraceQuery
