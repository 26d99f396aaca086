import TraceQuery.Proofs.Config.Layering
import TraceQuery.Proofs.Paging.Page
import TraceQuery.Proofs.Query.Agreement

/-!
Page sizes under settings that were loaded. A search asks for at least one row and for no more
than a page may have, and a page counts as full by the number that its statement was limited to.
-/

set_option autoImplicit false
namespace TraceQuery

open Sql (whereText)

/-! ## The number that limits a statement -/

theorem exists_countParam (n : UInt32) :
    ∃ bound : Int64, countParam n = .integer bound ∧ bound.toInt = n.toNat := by
  refine ⟨Int64.ofNat n.toNat, rfl, ?_⟩
  have small := n.toNat_lt
  exact Int64.toInt_ofNat_of_lt (by omega)

theorem SearchPlan.exists_last_param (plan : SearchPlan) :
    ∃ bound : Int64, plan.statement.params.getLast? = some (.integer bound) ∧
      bound.toInt = plan.pageSize.toNat := by
  obtain ⟨bound, counted, same⟩ := exists_countParam plan.pageSize
  refine ⟨bound, ?_, same⟩
  rw [← counted]
  simp [SearchPlan.statement, countParam]

namespace TagValuesPlan

theorem sql_statement_of_none {plan : TagValuesPlan} (unlimited : plan.maxValues = none) :
    plan.statement.sql = selectText plan.tag ++ whereText plan.predicates ++ groupText := by
  rw [sql_statement, unlimited, limitText, String.append_empty]

theorem sql_statement_of_some {plan : TagValuesPlan} {most : UInt32}
    (limited : plan.maxValues = some most) :
    plan.statement.sql =
      selectText plan.tag ++ whereText plan.predicates ++ groupText ++ " LIMIT ?" := by
  rw [sql_statement, limited, limitText]

theorem exists_last_param {plan : TagValuesPlan} {most : UInt32}
    (limited : plan.maxValues = some most) :
    ∃ bound : Int64, plan.statement.params.getLast? = some (.integer bound) ∧
      bound.toInt = most.toNat := by
  obtain ⟨bound, counted, same⟩ := exists_countParam most
  refine ⟨bound, ?_, same⟩
  rw [← counted]
  simp [params_statement, limited]

end TagValuesPlan

/-! ## Requests for empty pages -/

/-- What a request for pages without rows is refused with: an unreadable token is told of first,
then an unknown sort field. -/
inductive SearchRequest.EmptyPageFault (r : SearchRequest) : QueryError → Prop
  | token (t : PageToken) : r.nextToken = some t → t.boundary? = none →
    EmptyPageFault r (.invalidCursor t)
  | sort (b : Option Int64) (spec : SortSpec) : SpanReader.boundary r = .ok b →
    r.sort = some spec → ¬spec.Known → EmptyPageFault r (.build (.invalidSortField spec.field))
  | pageSize (b : Option Int64) : SpanReader.boundary r = .ok b →
    (∀ spec, r.sort = some spec → spec.Known) → EmptyPageFault r (.build .invalidPageSize)

namespace SpanReader

theorem boundary_cases (request : SearchRequest) :
    (∃ token, request.nextToken = some token ∧ token.boundary? = none) ∨
      ∃ b, boundary request = .ok b := by
  unfold boundary
  cases request.nextToken with
  | none => exact .inr ⟨none, rfl⟩
  | some token =>
    cases read : token.boundary? with
    | none => exact .inl ⟨token, rfl, read⟩
    | some b => exact .inr ⟨some b, by simp [read]⟩

theorem exists_plan_error_of_zero (r : SpanReader) {request : SearchRequest}
    (zero : request.limit = some 0) :
    ∃ e, request.EmptyPageFault e ∧ r.plan request = .error e := by
  rcases boundary_cases request with ⟨token, given, unread⟩ | ⟨b, bounded⟩
  · exact ⟨_, .token token given unread, r.plan_of_invalid_token given unread⟩
  -- Whatever is wrong with the filters would be told of only behind the page size.
  by_cases sort : ∀ spec, request.sort = some spec → spec.Known
  · exact ⟨_, .pageSize b bounded sort,
      plan_of_build_error bounded (SearchRequest.plan_eq_error_iff.2 (.pageSize sort zero))⟩
  · push Not at sort
    obtain ⟨spec, asked, unknown⟩ := sort
    exact ⟨_, .sort b spec bounded asked unknown,
      plan_of_build_error bounded (SearchRequest.plan_eq_error_iff.2 (.sort spec asked unknown))⟩

end SpanReader

/-! ## Loaded settings -/

namespace Config

theorem Settings.valid_of_load {dirs : Path.Directories} {files : String → File} {o : Overrides}
    {settings : Settings} (loaded : (load dirs files o).result = .ok settings) :
    settings.Valid := by
  obtain ⟨profile, overlay, -, -, -, valid⟩ := load_eq_ok_iff.1 loaded
  exact valid

namespace Settings.Valid

variable {settings : Settings} (valid : settings.Valid)
include valid

theorem min_default : min settings.query.defaultPageSize settings.query.maxPageSize =
    settings.query.defaultPageSize := by
  rw [Std.min_eq_if, if_pos valid.default_le_max]

theorem pageSize_of_plan {request : SearchRequest} {b : Option Int64} {registry : Registry}
    {plan : SearchPlan} (built : request.plan b registry settings.query.limits = .ok plan) :
    1 ≤ plan.pageSize ∧ plan.pageSize ≤ settings.query.maxPageSize ∧
      plan.pageSize =
        min (request.limit.getD settings.query.defaultPageSize) settings.query.maxPageSize ∧
      (request.limit = none → plan.pageSize = settings.query.defaultPageSize) := by
  have positive := SearchRequest.pageSize_pos ⟨valid.defaultPage, valid.page⟩ built
  obtain ⟨-, size, -⟩ := SearchRequest.plan_eq_ok_iff.1 built
  obtain ⟨-, least⟩ := SearchRequest.effectivePageSize_eq_ok_iff.1 size
  refine ⟨UInt32.le_iff_toNat_le.2 (UInt32.lt_iff_toNat_lt.1 positive), ?_, least, ?_⟩
  · rw [least]
    exact Std.min_le_right
  · intro unasked
    rw [least, unasked]
    exact valid.min_default

theorem one_le_maxTagValues {most : UInt32} (limited : settings.query.maxTagValues = some most) :
    1 ≤ most.toNat := by
  have nonzero : most ≠ 0 := fun zero => valid.tagValues (zero ▸ limited)
  exact UInt32.lt_iff_toNat_lt.1 (UInt32.pos_iff_ne_zero.2 nonzero)

end Settings.Valid

/--
Under settings that were loaded, a search for pages without rows is refused and issues nothing.
Every other search that a query is built from asks for the rows it wants, or for the default number
of them, and at most for the greatest number; that number is bound last, and is the one by which a
page counts as full. The values of a tag are limited to one of them at least, or not at all.
-/
theorem loaded_settings_size_pages {dirs : Path.Directories} {files : String → File}
    {o : Overrides} {settings : Settings} (loaded : (load dirs files o).result = .ok settings)
    (registry : Registry) :
    let r : SpanReader := ⟨registry, settings.query⟩
    let q := settings.query
    (∀ request : SearchRequest, request.limit = some 0 →
      ∃ e, request.EmptyPageFault e ∧ ∀ {σ : Type} (executor : Executor σ) (s : Session σ),
        r.search executor request s = (.error e, s)) ∧
    (∀ (request : SearchRequest) (b : Option Int64) (plan : SearchPlan),
      request.plan b registry q.limits = .ok plan →
        1 ≤ plan.pageSize ∧ plan.pageSize ≤ q.maxPageSize ∧
        plan.pageSize = min (request.limit.getD q.defaultPageSize) q.maxPageSize ∧
        (request.limit = none → plan.pageSize = q.defaultPageSize) ∧
        ∃ bound : Int64, plan.statement.params.getLast? = some (.integer bound) ∧
          bound.toInt = plan.pageSize.toNat) ∧
    (∀ {σ : Type} (executor : Executor σ) (request : SearchRequest) (s after : Session σ)
      (page : SpanPage), r.search executor request s = (.ok page, after) →
        ∃ b plan, SpanReader.boundary request = .ok b ∧
          request.plan b registry q.limits = .ok plan ∧
          (q.cursorPolicy = .fullPage → (page.nextToken.isSome ↔ page.spans ≠ [] ∧
            plan.pageSize.toNat ≤ (executor.fetch s.store plan.statement).1.rows.length))) ∧
    ∀ (request : TagValuesRequest) (tag : String) (plan : TagValuesPlan),
      request.plan tag registry q.maxTagValues = .ok plan →
        let unlimited := TagValuesPlan.selectText plan.tag ++ whereText plan.predicates ++
          TagValuesPlan.groupText
        (q.maxTagValues = none ∧ plan.statement.sql = unlimited) ∨
          ∃ (most : UInt32) (bound : Int64), q.maxTagValues = some most ∧ bound.toInt = most.toNat ∧
            1 ≤ bound.toInt ∧ plan.statement.sql = unlimited ++ " LIMIT ?" ∧
            plan.statement.params.getLast? = some (.integer bound) := by
  have valid := Settings.valid_of_load loaded
  intro r q
  refine ⟨fun request zero => ?_, fun request b plan built => ?_, ?_, ?_⟩
  · obtain ⟨e, fault, failed⟩ := r.exists_plan_error_of_zero zero
    exact ⟨e, fault, fun executor s => SpanReader.search_of_error failed executor⟩
  · obtain ⟨positive, most, least, standard⟩ := valid.pageSize_of_plan built
    exact ⟨positive, most, least, standard, plan.exists_last_param⟩
  · intro σ executor request s after page returned
    obtain ⟨plan, built, rfl⟩ := SpanReader.search_eq_ok returned
    obtain ⟨b, bounded, planned⟩ := SpanReader.plan_eq_ok_iff.1 built
    refine ⟨b, plan, bounded, planned, fun full => ?_⟩
    rw [SpanReader.isSome_nextToken_page_iff]
    exact and_congr_right fun _ => ⟨fun reached => reached full, fun reached _ => reached⟩
  · intro request tag plan built unlimited
    obtain ⟨-, -, limited⟩ := TagValuesRequest.plan_eq_ok_iff.1 built
    cases given : q.maxTagValues with
    | none => exact .inl ⟨rfl, TagValuesPlan.sql_statement_of_none (limited.trans given)⟩
    | some most =>
      have limited := limited.trans given
      obtain ⟨bound, last, same⟩ := TagValuesPlan.exists_last_param limited
      have least : 1 ≤ bound.toInt := by
        have := valid.one_le_maxTagValues given
        omega
      exact .inr ⟨most, bound, rfl, same, least, TagValuesPlan.sql_statement_of_some limited, last⟩

/-- A thousand rows are wanted where fifty are the most, and the values of a tag are limited. -/
theorem loaded_settings_size_pages_cut :
    let o : Overrides :=
      { Overrides.none with
        defaultPageSize := some 10, maxPageSize := some 50, maxTagValues := some 5 }
    let q : QuerySettings := ⟨10, 50, 30, .anyRows, some 5⟩
    let database : DatabaseSettings := ⟨"/home/.spanquery/spans.db", 4, 5⟩
    (load ⟨"/home", "/cwd"⟩ (fun _ => .absent) o).result = .ok ⟨database, q⟩ ∧
      ∃ (wide bare : SearchPlan) (counts : TagValuesPlan),
        { SearchRequest.standard with limit := some 1000 }.plan none .standard q.limits = .ok wide ∧
        wide.pageSize = 50 ∧
        SearchRequest.standard.plan none .standard q.limits = .ok bare ∧ bare.pageSize = 10 ∧
        TagValuesRequest.standard.plan "span.name" .standard q.maxTagValues = .ok counts ∧
        ∃ bound, counts.statement.params.getLast? = some (.integer bound) ∧ bound.toInt = 5 := by
  intro o q database
  have loaded : (load ⟨"/home", "/cwd"⟩ (fun _ => .absent) o).result = .ok ⟨database, q⟩ := rfl
  obtain ⟨-, sized, -, limited⟩ := loaded_settings_size_pages loaded .standard
  obtain ⟨wide, first⟩ : ∃ plan,
      { SearchRequest.standard with limit := some 1000 }.plan none .standard q.limits = .ok plan :=
    ⟨_, rfl⟩
  obtain ⟨bare, second⟩ : ∃ plan,
      SearchRequest.standard.plan none .standard q.limits = .ok plan := ⟨_, rfl⟩
  obtain ⟨counts, third⟩ : ∃ plan,
      TagValuesRequest.standard.plan "span.name" .standard q.maxTagValues = .ok plan := ⟨_, rfl⟩
  refine ⟨loaded, wide, bare, counts, first, ?_, second, ?_, third, ?_⟩
  · obtain ⟨-, -, cut, -⟩ := sized _ none wide first
    exact cut
  · obtain ⟨-, -, -, standard, -⟩ := sized _ none bare second
    exact standard rfl
  · obtain ⟨unset, -⟩ | ⟨most, bound, given, same, -, -, last⟩ := limited _ "span.name" counts third
    · cases unset
    · cases given
      exact ⟨bound, last, same⟩

end Config

end TraceQuery
