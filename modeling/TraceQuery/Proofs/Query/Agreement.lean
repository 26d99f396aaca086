import TraceQuery.Proofs.Query.Conjunction
import TraceQuery.Proofs.Query.Faults
import TraceQuery.Proofs.Sql.Aliases

/-!
A search and a count of tag values are about the same spans, if they have the same filters and the
same timeframe: they fail alike, and their conditions have one text and one block of parameters.
-/

set_option autoImplicit false
namespace TraceQuery

open Sql (Fills IsPlain Lacks Predicate countNames placeholders whereParams whereText)

namespace TagValuesPlan

def selectText (tag : TagLocation) : String :=
  "SELECT " ++ countedText tag ++ " AS tag_value, COUNT(*) AS tag_count FROM " ++ sourceText tag

def groupText : String :=
  " GROUP BY tag_value HAVING tag_value IS NOT NULL ORDER BY tag_count DESC"

theorem sql_statement (plan : TagValuesPlan) :
    plan.statement.sql = selectText plan.tag ++ whereText plan.predicates ++ groupText ++
      limitText plan.maxValues := by
  rw [statement, selectText, groupText]

theorem params_statement (plan : TagValuesPlan) :
    plan.statement.params = countedParams plan.tag ++ whereParams plan.predicates ++
      (plan.maxValues.map countParam).toList :=
  rfl

theorem countedParams_eq {registry : Registry} {tag : String} {location : TagLocation}
    (resolved : registry.resolve tag = .ok location) :
    countedParams location = registry.tagParams tag := by
  rw [Registry.tagParams, resolved]
  cases location <;> rfl

theorem placeholders_selectText {tag : TagLocation} (plain : IsPlain tag.source) :
    placeholders (selectText tag) = (countedParams tag).length := by
  have select : IsPlain "SELECT " := by decide
  have counts : IsPlain " AS tag_value, COUNT(*) AS tag_count FROM " := by decide
  have counted := (Fills.literal select).append (fills_countedText plain)
  have named := counted.append (.literal counts)
  have count := Sql.length_of_fill (named.append (.literal (isPlain_sourceText plain)))
  simp only [List.nil_append, List.append_nil] at count
  rw [placeholders, selectText]
  exact count

end TagValuesPlan

theorem SearchPlan.placeholders_selectText : placeholders selectText = 0 :=
  List.count_eq_zero.2 isPlain_select

theorem lacks_ownColumns : ∀ name ∈ countNames, ∀ c ∈ ownColumns, Lacks name c := by
  decide

/--
A search without a boundary and a count of the values of a tag that resolves, with the same filters
and the same timeframe, fail with one error, or have one condition and bind one block of parameters
in it: the search before its page size, the count between the path of its tag and its own limit.
The names that the count introduces are in no predicate if they are in no registered column.
-/
theorem search_and_count_share_scope (registry : Registry) (r : SearchRequest)
    (limits : PageLimits) (tag : String) (location : TagLocation) (maxValues : Option UInt32)
    (sort : ∀ spec, r.sort = some spec → spec.Known) (limit : r.limit ≠ some 0)
    (resolved : registry.resolve tag = .ok location) :
    (∃ e, r.plan none registry limits = .error e ∧
      TagValuesRequest.plan ⟨r.filters, r.timeframe⟩ tag registry maxValues = .error e) ∨
    ∃ (search : SearchPlan) (count : TagValuesPlan),
      r.plan none registry limits = .ok search ∧
      TagValuesRequest.plan ⟨r.filters, r.timeframe⟩ tag registry maxValues = .ok count ∧
      search.predicates = count.predicates ∧
      search.statement.sql =
        SearchPlan.selectText ++ whereText search.predicates ++ search.orderText ∧
      search.statement.params = whereParams search.predicates ++
        [countParam (min (r.limit.getD limits.defaultSize) limits.maxSize)] ∧
      count.statement.sql = TagValuesPlan.selectText location ++ whereText search.predicates ++
        TagValuesPlan.groupText ++ TagValuesPlan.limitText maxValues ∧
      count.statement.params = registry.tagParams tag ++ whereParams search.predicates ++
        (maxValues.map countParam).toList ∧
      placeholders SearchPlan.selectText = 0 ∧
      (registry.IsPlain →
        placeholders (TagValuesPlan.selectText location) = (registry.tagParams tag).length ∧
        placeholders (whereText search.predicates) = (whereParams search.predicates).length) ∧
      ∀ name ∈ countNames, (∀ entry ∈ registry.entries, Lacks name entry.2.column) →
        ∀ p ∈ search.predicates, Lacks name p.text := by
  have accepts := Registry.exists_resolve_iff_accepts.1 ⟨location, resolved⟩
  cases scope : scopePredicates registry r.filters r.timeframe with
  | error e =>
    have first := scopePredicates_eq_error_iff.1 scope
    exact .inl ⟨e, SearchRequest.plan_eq_error_iff.2 (.filters sort limit first),
      TagValuesRequest.plan_eq_error_iff.2 (.filters accepts first)⟩
  | ok ps =>
    obtain ⟨⟨field, direction⟩, sorted⟩ := SearchRequest.exists_effectiveSort_iff.2 sort
    let pageSize := min (r.limit.getD limits.defaultSize) limits.maxSize
    have size : SearchRequest.effectivePageSize r.limit limits = .ok pageSize :=
      SearchRequest.effectivePageSize_eq_ok_iff.2 ⟨limit, rfl⟩
    -- Without a boundary there is nothing behind what is in scope.
    have search : r.plan none registry limits = .ok ⟨ps, field, direction, pageSize⟩ :=
      SearchRequest.plan_eq_ok_iff.2 ⟨sorted, size, ps, scope, (List.append_nil ps).symm⟩
    have count : TagValuesRequest.plan ⟨r.filters, r.timeframe⟩ tag registry maxValues =
        .ok ⟨location, ps, maxValues⟩ :=
      TagValuesRequest.plan_eq_ok_iff.2 ⟨resolved, scope, rfl⟩
    have counted := TagValuesPlan.countedParams_eq resolved
    refine .inr ⟨_, _, search, count, rfl, SearchPlan.sql_statement _, rfl,
      TagValuesPlan.sql_statement _, ?_, SearchPlan.placeholders_selectText, fun plain => ⟨?_, ?_⟩,
      fun name among free => ?_⟩
    · rw [TagValuesPlan.params_statement, counted]
    · rw [← counted]
      exact TagValuesPlan.placeholders_selectText
        (registry.source_of_resolve plain isPlain_ownColumns resolved)
    · exact Sql.length_of_fill
        (Sql.fills_whereText (source_of_scopePredicates plain isPlain_ownColumns scope))
    · intro p member
      have source := source_of_scopePredicates free (lacks_ownColumns name among) scope p member
      exact Predicate.lacks_text among source

/-- The count is of an attribute of events, and a filter asks about another one. -/
theorem search_and_count_share_scope_events :
    let registry : Registry := NameMap.empty.insert "span.name" ⟨.string, "spans.name"⟩
    let filters : List SearchFilter :=
      [⟨"event.level", "not_contains", some (.scalar (.text "x"))⟩,
        ⟨"span.name", "in", some (.list [.text "a", .text "b"])⟩]
    let request : SearchRequest :=
      ⟨filters, some ⟨some 7, none⟩, some ⟨"end_time", .ascending⟩, none, some 5⟩
    ∃ (search : SearchPlan) (count : TagValuesPlan),
      request.plan none registry .standard = .ok search ∧
      TagValuesRequest.plan ⟨filters, some ⟨some 7, none⟩⟩ "event.name" registry (some 9) =
        .ok count ∧
      search.predicates = count.predicates ∧
      search.statement.params = whereParams search.predicates ++ [.integer 5] ∧
      count.statement.params = [.text "$.attributes.\"name\""] ++
        whereParams search.predicates ++ [.integer 9] ∧
      placeholders (whereText search.predicates) = (whereParams search.predicates).length ∧
      ∀ p ∈ search.predicates, Lacks "tag_item" p.text := by
  intro registry filters request
  have sort : ∀ spec, request.sort = some spec → spec.Known := by
    rintro spec asked
    cases asked
    exact ⟨.endTime, .inr rfl⟩
  have resolved : registry.resolve "event.name" =
      .ok (.element "spans.events" "$.attributes.\"name\"") := by decide +kernel
  have valid : ∃ search, request.plan none registry .standard = .ok search := ⟨_, rfl⟩
  rcases search_and_count_share_scope registry request .standard "event.name" _ (some 9) sort
      (by decide) resolved with ⟨e, failed, -⟩ | ⟨search, count, searched, counted, same, -, bound,
        -, also, -, plain, free⟩
  · obtain ⟨search, searched⟩ := valid
    rw [failed] at searched
    cases searched
  · have path : registry.tagParams "event.name" = [.text "$.attributes.\"name\""] := by
      decide +kernel
    rw [path] at also
    exact ⟨search, count, searched, counted, same, bound, also, (plain (by decide)).2,
      free "tag_item" (by decide) (by decide)⟩

end TraceQuery
