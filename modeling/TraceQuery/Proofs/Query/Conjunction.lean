import TraceQuery.Proofs.Query.Parameters
import TraceQuery.Proofs.Sql.Clause

/-!
The condition of a search is that all its predicates hold, and no other: its text is split into
them at the words between, and none of them can be taken for more than one.
-/

set_option autoImplicit false
namespace TraceQuery

open Sql (Balanced IsUnbroken Leads Predicate clause? joined spaced split whereText)
open Sql.Reading (within)

/-- No registered column has a blank, a parenthesis or a quote in its text. -/
def Registry.IsUnbroken (registry : Registry) : Prop :=
  ∀ entry ∈ registry.entries, Sql.IsUnbroken entry.2.column

instance (registry : Registry) : Decidable registry.IsUnbroken :=
  inferInstanceAs (Decidable (∀ entry ∈ registry.entries, Sql.IsUnbroken entry.2.column))

theorem isUnbroken_ownColumns : ∀ c ∈ ownColumns, Sql.IsUnbroken c := by
  decide

namespace SearchPlan

def selectText : String :=
  "SELECT " ++ joined ", " spanColumns ++ " FROM " ++ spansTable

theorem leads_selectText : Leads (within 0) selectText (within 0) := by
  have select : Leads (within 0) "SELECT " ⟨.outside, true⟩ := by decide
  have comma : Leads (within 0) ", " ⟨.outside, true⟩ := by decide
  have columns : Leads ⟨.outside, true⟩ (joined ", " spanColumns) (within 0) :=
    comma.joined (by decide) (by decide +kernel)
  have table : Leads (within 0) " FROM " ⟨.outside, true⟩ := by decide
  have spans : Leads ⟨.outside, true⟩ spansTable (within 0) := by decide
  exact ((select.append columns).append table).append spans

theorem not_mem_selectText : 'W' ∉ selectText.toList := by
  have columns : 'W' ∉ (joined ", " spanColumns).toList :=
    Sql.joined_of (P := fun s => 'W' ∉ s.toList) (by decide) Sql.not_mem_append (by decide)
      (by decide +kernel)
  have named := Sql.not_mem_append (show 'W' ∉ "SELECT ".toList by decide) columns
  have table := Sql.not_mem_append named (show 'W' ∉ " FROM ".toList by decide)
  exact Sql.not_mem_append table (by decide)

theorem not_mem_orderText (plan : SearchPlan) : 'W' ∉ plan.orderText.toList := by
  have column : 'W' ∉ plan.sort.column.toList := by
    cases plan.sort <;> decide
  have keyword : 'W' ∉ plan.direction.keyword.toList := by
    cases plan.direction <;> decide
  have first := Sql.not_mem_append (show 'W' ∉ " ORDER BY ".toList by decide) column
  have way := Sql.not_mem_append
    (Sql.not_mem_append first (show 'W' ∉ " ".toList by decide)) keyword
  have second := Sql.not_mem_append
    (Sql.not_mem_append way (show 'W' ∉ ", spans.span_id ".toList by decide)) keyword
  exact Sql.not_mem_append second (by decide)

theorem sql_statement (plan : SearchPlan) :
    plan.statement.sql = selectText ++ whereText plan.predicates ++ plan.orderText := by
  rw [statement, selectText]

theorem exists_orderText (plan : SearchPlan) :
    ∃ rest, plan.orderText.toList = spaced "ORDER BY" ++ rest ∧
      Sql.beforeLast? "ORDER BY" (spaced "ORDER BY" ++ rest).tail = none := by
  unfold orderText
  generalize plan.sort = sort
  generalize plan.direction = direction
  refine ⟨(sort.column ++ " " ++ direction.keyword ++ ", spans.span_id " ++ direction.keyword ++
    " LIMIT ?").toList, ?_, ?_⟩
  · simp only [String.append_assoc]
    rw [String.toList_append]
    rfl
  · cases sort <;> cases direction <;> decide +kernel

theorem no_where_of_nil {plan : SearchPlan} (unfiltered : plan.predicates = []) :
    ¬"WHERE".toList <:+: plan.statement.sql.toList := by
  have text : plan.statement.sql = selectText ++ plan.orderText := by
    rw [sql_statement, unfiltered, whereText, List.isEmpty_nil, if_pos rfl, String.append_empty]
  intro found
  -- Not even the word's first letter is in what is left of the statement.
  have letter : 'W' ∈ plan.statement.sql.toList := found.subset (by decide)
  rw [text] at letter
  exact Sql.not_mem_append not_mem_selectText plan.not_mem_orderText letter

theorem clause?_statement {plan : SearchPlan} (filtered : plan.predicates ≠ []) :
    clause? plan.statement.sql.toList =
      some (joined " AND " (plan.predicates.map Predicate.text)).toList := by
  obtain ⟨rest, order, last⟩ := plan.exists_orderText
  have text : plan.statement.sql.toList = selectText.toList ++ (spaced "WHERE" ++
      ((joined " AND " (plan.predicates.map Predicate.text)).toList ++
        (spaced "ORDER BY" ++ rest))) := by
    rw [sql_statement, whereText, if_neg (by simpa using filtered), String.toList_append,
      String.toList_append, String.toList_append, order]
    simp only [List.append_assoc]
    rfl
  rw [text, clause?, leads_selectText.cut?_spaced Sql.hasInitial_where, Option.bind_some]
  exact Sql.beforeLast?_append last _

end SearchPlan

/--
A search asks for its filters in their order, then for the bounds of its timeframe, then for the
boundary of its page. Without any of them its statement has no condition; else the text between the
first WHERE outside parentheses and the last ORDER BY is split into them at every AND that stands
outside parentheses and literals. Each closes its parentheses, and has no OR outside them.
-/
theorem SearchRequest.clause_conjoins_predicates (registry : Registry)
    (unbroken : registry.IsUnbroken) (r : SearchRequest) (boundary : Option Int64)
    (limits : PageLimits) (plan : SearchPlan) (built : r.plan boundary registry limits = .ok plan) :
    (∃ chosen, List.Forall₂ (fun f p => f.predicate registry = .ok p) r.filters chosen ∧
      plan.predicates = chosen ++ ((r.timeframe.bind (·.start)).map startBound).toList ++
        ((r.timeframe.bind (·.stop)).map stopBound).toList ++
          (boundary.map (boundaryPredicate plan.sort plan.direction)).toList) ∧
    (plan.predicates = [] → ¬"WHERE".toList <:+: plan.statement.sql.toList) ∧
    (plan.predicates ≠ [] → ∃ clause, clause? plan.statement.sql.toList = some clause ∧
      split "AND" clause = plan.predicates.map (·.text.toList)) ∧
    ∀ p ∈ plan.predicates,
      Balanced p.text.toList ∧ split "OR" p.text.toList = [p.text.toList] := by
  have closed (p : Predicate) (member : p ∈ plan.predicates) :
      Leads (within 0) p.text (within 0) :=
    Predicate.leads_text (source_of_plan unbroken isUnbroken_ownColumns built p member)
  refine ⟨?_, SearchPlan.no_where_of_nil, fun filtered => ?_, fun p member => ?_⟩
  · obtain ⟨-, -, scope, inScope, predicates⟩ := plan_eq_ok_iff.1 built
    obtain ⟨chosen, each, rfl⟩ := scopePredicates_eq_ok_iff.1 inScope
    refine ⟨chosen, SearchFilter.predicates_eq_ok_iff.1 each, ?_⟩
    simp only [predicates, timeframePredicates_eq, List.append_assoc]
  · refine ⟨_, SearchPlan.clause?_statement filtered, ?_⟩
    rw [Sql.split_joined (by simpa using filtered) (by simpa using closed), List.map_map]
    rfl
  · exact ⟨(closed p member).balanced, (closed p member).split_eq Sql.hasInitial_or⟩

/-- The conditions with an OR or a WHERE of their own are no more than one each. -/
theorem SearchRequest.clause_conjoins_predicates_nested :
    let registry : Registry := NameMap.empty.insert "span.name" ⟨.string, "spans.name"⟩
    let filters : List SearchFilter :=
      [⟨"span.name", "not_contains", some (.scalar (.text " AND "))⟩,
        ⟨"http.method", "not_in", some (.list [.text "GET", .text "PUT"])⟩,
        ⟨"event.level", "not_contains", some (.scalar (.text "x"))⟩]
    let request : SearchRequest := ⟨filters, some ⟨none, some 7⟩, none, none, none⟩
    let plan : SearchPlan :=
      ⟨[.test (.column "spans.name") (.notLike "% AND %"),
          .test (.member "spans.span_attributes" "$.\"http.method\"")
            (.notIn [.text "GET", .text "PUT"]),
          .noElement "spans.events" "$.attributes.\"level\"" (.like "%x%"),
          stopBound 7, boundaryPredicate .startTime .descending 5],
        .startTime, .descending, 100⟩
    registry.IsUnbroken ∧ request.plan (some 5) registry .standard = .ok plan ∧
      ∃ clause, clause? plan.statement.sql.toList = some clause ∧
        split "AND" clause =
          [ "(spans.name IS NULL OR spans.name NOT LIKE ? ESCAPE '\\')".toList
          , ("(json_extract(spans.span_attributes, ?) IS NULL OR " ++
              "json_extract(spans.span_attributes, ?) NOT IN (?, ?))").toList
          , ("NOT EXISTS (SELECT 1 FROM json_each(spans.events) AS nested_item WHERE " ++
              "json_extract(nested_item.value, ?) LIKE ? ESCAPE '\\')").toList
          , "spans.end_time_unix_nano <= ?".toList
          , "spans.start_time_unix_nano < ?".toList ] := by
  intro registry filters request plan
  have unbroken : registry.IsUnbroken := by decide
  have built : request.plan (some 5) registry .standard = .ok plan := rfl
  have ⟨_, _, conjoins, _⟩ :=
    clause_conjoins_predicates registry unbroken request (some 5) .standard plan built
  obtain ⟨clause, found, parts⟩ := conjoins (by decide)
  exact ⟨unbroken, built, clause, found, parts.trans rfl⟩

end TraceQuery
