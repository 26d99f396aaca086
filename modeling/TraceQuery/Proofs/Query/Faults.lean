import TraceQuery.Proofs.Query.Plan
import TraceQuery.Proofs.Tag.Resolution

/-!
Which requests become plans, and why another does not. The fault that is reported is the first: of
the sort field before the page size, of these before the filters, and of the filters in their
order, where the operator is looked at before the value and the value before the key. What becomes
a predicate is asked in the operator's own way, or on elements in that of its positive counterpart.
-/

set_option autoImplicit false
namespace TraceQuery

open Sql (Condition Predicate)

/-! ## Operators and their values -/

def Arity.Takes : Arity → Option FilterValue → Prop
  | .none, value => value = Option.none
  | .scalar, value => ∃ s, value = some (.scalar s)
  | .text, value => ∃ s, value = some (.scalar (.text s))
  | .list, value => ∃ items, value = some (.list items) ∧ items ≠ []

theorem Operator.ofName?_eq_some_iff {name : String} {o : Operator} :
    ofName? name = some o ↔ name = o.name := by
  constructor
  · intro found
    have named := List.find?_some found
    exact (eq_of_beq named).symm
  · rintro rfl
    exact o.ofName?_name

theorem Operator.ofName?_eq_none_iff {name : String} :
    ofName? name = none ↔ ∀ o : Operator, name ≠ o.name := by
  rw [Option.eq_none_iff_forall_ne_some]
  exact forall_congr' fun o => ofName?_eq_some_iff.not

theorem Operator.exists_argument?_iff {o : Operator} {value : Option FilterValue} :
    (∃ argument, o.argument? value = some argument) ↔ o.arity.Takes value := by
  constructor
  · rintro ⟨argument, accepted⟩
    rcases argument?_cases accepted with ⟨shape, rfl, -⟩ | ⟨shape, s, rfl, -⟩ |
      ⟨shape, s, rfl, -⟩ | ⟨shape, item, items, rfl, -⟩
    · rw [shape]
      rfl
    · rw [shape]
      exact ⟨s, rfl⟩
    · rw [shape]
      exact ⟨s, rfl⟩
    · rw [shape]
      exact ⟨_, rfl, List.cons_ne_nil item items⟩
  · unfold argument?
    generalize o.arity = arity
    intro takes
    cases arity with
    | none =>
      cases takes
      exact ⟨_, rfl⟩
    | scalar =>
      obtain ⟨s, rfl⟩ := takes
      exact ⟨_, rfl⟩
    | text =>
      obtain ⟨s, rfl⟩ := takes
      exact ⟨_, rfl⟩
    | list =>
      obtain ⟨items, rfl, nonempty⟩ := takes
      obtain ⟨item, rest, rfl⟩ := List.exists_cons_of_ne_nil nonempty
      exact ⟨_, rfl⟩

theorem Operator.argument?_eq_none_iff {o : Operator} {value : Option FilterValue} :
    o.argument? value = none ↔ ¬o.arity.Takes value := by
  rw [← exists_argument?_iff, ← Option.isSome_iff_exists, Option.not_isSome_iff_eq_none]

inductive Operator.Asks : Operator → Option FilterValue → Condition → Prop
  | equals (s : Scalar) : Asks .equals (some (.scalar s)) (.compare .equal s.bindValue)
  | greater (s : Scalar) : Asks .greater (some (.scalar s)) (.compare .greater s.bindValue)
  | greaterOrEqual (s : Scalar) :
    Asks .greaterOrEqual (some (.scalar s)) (.compare .greaterOrEqual s.bindValue)
  | less (s : Scalar) : Asks .less (some (.scalar s)) (.compare .less s.bindValue)
  | lessOrEqual (s : Scalar) :
    Asks .lessOrEqual (some (.scalar s)) (.compare .lessOrEqual s.bindValue)
  | isIn (items : List Scalar) :
    Asks .isIn (some (.list items)) (.isIn (items.map Scalar.bindValue))
  | notIn (items : List Scalar) :
    Asks .notIn (some (.list items)) (.notIn (items.map Scalar.bindValue))
  | contains (s : String) :
    Asks .contains (some (.scalar (.text s))) (.like (Sql.Like.containing s))
  | notContains (s : String) :
    Asks .notContains (some (.scalar (.text s))) (.notLike (Sql.Like.containing s))
  | present : Asks .present none .present
  | absent : Asks .absent none .absent

theorem Operator.Asks.ne_never {o : Operator} {value : Option FilterValue} {c : Condition}
    (asks : o.Asks value c) : c ≠ .never := by
  cases asks <;> nofun

theorem Operator.asks_condition {o : Operator} {value : Option FilterValue} {argument : Argument}
    (accepted : o.argument? value = some argument) : o.Asks value (o.condition argument) := by
  rcases argument?_cases accepted with ⟨shape, rfl, rfl⟩ | ⟨shape, s, rfl, rfl⟩ |
    ⟨shape, s, rfl, rfl⟩ | ⟨shape, item, items, rfl, rfl⟩
  -- In each case the arity leaves only the operators that make something of the argument.
  · cases o <;> cases shape <;> constructor
  · cases o <;> cases shape <;> constructor
  · cases o <;> cases shape <;> constructor
  · cases o <;> cases shape <;> constructor

def Sql.Predicate.condition : Predicate → Condition
  | .test _ condition | .someElement _ _ condition | .noElement _ _ condition => condition

/-- How an operator's condition is asked at a location. -/
inductive Operator.Renders (o : Operator) (value : Option FilterValue) :
    TagLocation → Predicate → Prop
  | column (name : String) {c : Condition} :
    o.Asks value c → Renders o value (.column name) (.test (.column name) c)
  | attribute (document path : String) {c : Condition} :
    o.Asks value c → Renders o value (.attribute document path) (.test (.member document path) c)
  | someElement (column path : String) {c : Condition} :
    o.isNegative = false → o.Asks value c →
      Renders o value (.element column path) (.someElement column path c)
  | noElement (column path : String) {c : Condition} :
    o.isNegative = true → o.positive.Asks value c →
      Renders o value (.element column path) (.noElement column path c)

theorem Operator.Renders.ne_never {o : Operator} {value : Option FilterValue}
    {location : TagLocation} {p : Predicate} (renders : o.Renders value location p) :
    p.condition ≠ .never := by
  cases renders with
  | column name asks => exact asks.ne_never
  | «attribute» document path asks => exact asks.ne_never
  | someElement column path _ asks => exact asks.ne_never
  | noElement column path _ asks => exact asks.ne_never

theorem Operator.renders_predicate {o : Operator} {value : Option FilterValue}
    {argument : Argument} (accepted : o.argument? value = some argument)
    (location : TagLocation) : o.Renders value location (o.predicate argument location) := by
  cases location with
  | column name => exact .column name (asks_condition accepted)
  | «attribute» document path => exact .attribute document path (asks_condition accepted)
  | element column path =>
    have counterpart : o.positive.argument? value = some argument := by
      rw [argument?_positive, accepted]
    have asks := asks_condition counterpart
    cases negative : o.isNegative with
    | true =>
      rw [predicate, if_pos negative]
      exact .noElement column path negative asks
    | false =>
      -- The counterpart of an operator that is not negative is the operator itself.
      have itself : o.positive = o := by
        cases o <;> first | rfl | cases negative
      rw [itself] at asks
      rw [predicate, if_neg (Bool.eq_false_iff.1 negative), itself]
      exact .someElement column path negative asks

/-! ## Keys -/

def Registry.Accepts (registry : Registry) (key : String) : Prop :=
  (∃ tag, registry.get? key = some tag) ∨
    key ≠ "" ∧ '"' ∉ key.toList ∧ ∀ source : AttributeSource, key ≠ source.key ++ "."

/-- Why a key that is not registered names no attribute. -/
inductive Registry.Faulty (registry : Registry) (key : String) : KeyFault → Prop
  | empty : registry.get? key = none → key = "" → Faulty registry key .empty
  | doubleQuote :
    registry.get? key = none → '"' ∈ key.toList → Faulty registry key .doubleQuote
  | noName (source : AttributeSource) :
    registry.get? key = none → key = source.key ++ "." → Faulty registry key .noName

section Keys

variable {registry : Registry} {key : String} {e : BuildError}

theorem Registry.exists_resolve_iff_accepts :
    (∃ location, registry.resolve key = .ok location) ↔ registry.Accepts key := by
  unfold Accepts
  cases known : registry.get? key with
  | some tag => simp [resolve, known]
  | none => simp [exists_resolve_iff known]

theorem Registry.resolve_eq_error_iff :
    registry.resolve key = .error e ↔
      ∃ fault, registry.Faulty key fault ∧ e = .malformedKey key fault := by
  constructor
  · intro refused
    unfold resolve at refused
    cases known : registry.get? key with
    | some tag => simp [known] at refused
    | none =>
      simp only [known] at refused
      split at refused
      · next empty => exact ⟨.empty, .empty known empty, (Except.error.inj refused).symm⟩
      · next nonempty =>
        split at refused
        · next quoted => exact ⟨_, .doubleQuote known quoted, (Except.error.inj refused).symm⟩
        · next plain =>
          split at refused
          · next unnamed =>
            obtain ⟨source, bare⟩ := (AttributeSource.ofTag_snd_eq_empty_iff nonempty).1 unnamed
            exact ⟨_, .noName source known bare, (Except.error.inj refused).symm⟩
          · cases refused
  · rintro ⟨fault, faulty, rfl⟩
    cases faulty with
    | empty dynamic empty => rw [resolve, dynamic, empty, if_pos rfl]
    | doubleQuote dynamic quoted =>
      have nonempty : key ≠ "" := by
        rintro rfl
        cases quoted
      simp [resolve, dynamic, quoted, nonempty]
    | noName source dynamic bare =>
      have nonempty : key ≠ "" := by
        rw [bare]
        cases source <;> decide
      have plain : '"' ∉ key.toList := by
        rw [bare]
        cases source <;> decide
      have unnamed := (AttributeSource.ofTag_snd_eq_empty_iff nonempty).2 ⟨source, bare⟩
      simp [resolve, dynamic, nonempty, plain, unnamed]

end Keys

/-! ## Filters -/

namespace SearchFilter

structure Valid (registry : Registry) (f : SearchFilter) : Prop where
  value : ∃ o : Operator, f.operator = o.name ∧ o.arity.Takes f.value
  key : registry.Accepts f.key

inductive Fault (registry : Registry) (f : SearchFilter) : BuildError → Prop
  | operator : (∀ o : Operator, f.operator ≠ o.name) →
    Fault registry f (.unknownOperator f.operator)
  | value (o : Operator) : f.operator = o.name → ¬o.arity.Takes f.value →
    Fault registry f (.invalidValue f.key o)
  | key (o : Operator) (fault : KeyFault) : f.operator = o.name → o.arity.Takes f.value →
    registry.Faulty f.key fault → Fault registry f (.malformedKey f.key fault)

/-- The fault of the first filter that has one. -/
def FirstFault (registry : Registry) (filters : List SearchFilter) (e : BuildError) : Prop :=
  ∃ before f after, filters = before ++ f :: after ∧ (∀ g ∈ before, g.Valid registry) ∧
    f.Fault registry e

def Renders (registry : Registry) (f : SearchFilter) (p : Predicate) : Prop :=
  ∃ (o : Operator) (location : TagLocation), f.operator = o.name ∧
    registry.resolve f.key = .ok location ∧ o.Renders f.value location p

variable {registry : Registry} {f : SearchFilter} {filters : List SearchFilter} {p : Predicate}
  {ps : List Predicate} {e : BuildError}

theorem exists_predicate_iff : (∃ p, f.predicate registry = .ok p) ↔ f.Valid registry := by
  constructor
  · rintro ⟨p, built⟩
    obtain ⟨o, argument, location, named, accepted, resolved, -⟩ := predicate_eq_ok_iff.1 built
    exact ⟨⟨o, Operator.ofName?_eq_some_iff.1 named,
      Operator.exists_argument?_iff.1 ⟨argument, accepted⟩⟩,
      Registry.exists_resolve_iff_accepts.1 ⟨location, resolved⟩⟩
  · rintro ⟨⟨o, named, takes⟩, accepts⟩
    obtain ⟨argument, accepted⟩ := Operator.exists_argument?_iff.2 takes
    obtain ⟨location, resolved⟩ := Registry.exists_resolve_iff_accepts.2 accepts
    exact ⟨_, predicate_eq_ok_iff.2 ⟨o, argument, location, Operator.ofName?_eq_some_iff.2 named,
      accepted, resolved, rfl⟩⟩

theorem predicate_eq_error_iff : f.predicate registry = .error e ↔ f.Fault registry e := by
  constructor
  · intro failed
    unfold predicate at failed
    split at failed
    · next unknown =>
      cases failed
      exact .operator (Operator.ofName?_eq_none_iff.1 unknown)
    · next o named =>
      have named := Operator.ofName?_eq_some_iff.1 named
      split at failed
      · next refused =>
        cases failed
        exact .value o named (Operator.argument?_eq_none_iff.1 refused)
      · next argument accepted =>
        have takes := Operator.exists_argument?_iff.1 ⟨argument, accepted⟩
        split at failed
        · next refused =>
          cases failed
          obtain ⟨fault, faulty, rfl⟩ := Registry.resolve_eq_error_iff.1 refused
          exact .key o fault named takes faulty
        · cases failed
  · intro fault
    cases fault with
    | operator unknown => simp [predicate, Operator.ofName?_eq_none_iff.2 unknown]
    | value o named refused =>
      simp [predicate, Operator.ofName?_eq_some_iff.2 named,
        Operator.argument?_eq_none_iff.2 refused]
    | key o fault named takes faulty =>
      obtain ⟨argument, accepted⟩ := Operator.exists_argument?_iff.2 takes
      have refused := Registry.resolve_eq_error_iff.2 ⟨fault, faulty, rfl⟩
      simp [predicate, Operator.ofName?_eq_some_iff.2 named, accepted, refused]

theorem renders_of_predicate (built : f.predicate registry = .ok p) : f.Renders registry p := by
  obtain ⟨o, argument, location, named, accepted, resolved, rfl⟩ := predicate_eq_ok_iff.1 built
  exact ⟨o, location, Operator.ofName?_eq_some_iff.1 named, resolved,
    Operator.renders_predicate accepted location⟩

theorem exists_predicates_iff :
    (∃ ps, predicates registry filters = .ok ps) ↔ ∀ f ∈ filters, f.Valid registry := by
  simp only [predicates_eq_ok_iff, ← exists_predicate_iff]
  induction filters with
  | nil => simp
  | cons f rest ih => simp [List.forall₂_cons_left_iff, ← ih]

theorem firstFault_cons_iff :
    FirstFault registry (f :: filters) e ↔
      f.Fault registry e ∨ f.Valid registry ∧ FirstFault registry filters e := by
  constructor
  · rintro ⟨before, g, after, parts, passed, fault⟩
    cases before with
    | nil =>
      cases parts
      exact .inl fault
    | cons h before =>
      cases parts
      obtain ⟨valid, passed⟩ := List.forall_mem_cons.1 passed
      exact .inr ⟨valid, before, g, after, rfl, passed, fault⟩
  · rintro (fault | ⟨valid, before, g, after, rfl, passed, fault⟩)
    · exact ⟨[], f, filters, rfl, by simp, fault⟩
    · exact ⟨f :: before, g, after, rfl, List.forall_mem_cons.2 ⟨valid, passed⟩, fault⟩

theorem predicates_eq_error_iff :
    predicates registry filters = .error e ↔ FirstFault registry filters e := by
  induction filters with
  | nil => simp [predicates, FirstFault]
  | cons f rest ih =>
    rw [firstFault_cons_iff, ← ih, ← predicate_eq_error_iff, ← exists_predicate_iff, predicates]
    -- What is wrong with the first filter hides what is wrong with the others.
    cases f.predicate registry with
    | error first => simp
    | ok p => cases predicates registry rest <;> simp

end SearchFilter

/-! ## Requests -/

section Scope

variable {registry : Registry} {filters : List SearchFilter} {timeframe : Option Timeframe}
  {ps : List Predicate} {e : BuildError}

theorem exists_scopePredicates_iff :
    (∃ ps, scopePredicates registry filters timeframe = .ok ps) ↔
      ∀ f ∈ filters, f.Valid registry := by
  rw [← SearchFilter.exists_predicates_iff]
  unfold scopePredicates
  cases SearchFilter.predicates registry filters <;> simp

theorem scopePredicates_eq_error_iff :
    scopePredicates registry filters timeframe = .error e ↔
      SearchFilter.FirstFault registry filters e := by
  rw [← SearchFilter.predicates_eq_error_iff]
  unfold scopePredicates
  cases SearchFilter.predicates registry filters <;> simp

/-- Each filter is asked in its own way, and what never holds is not asked. -/
theorem renders_of_scopePredicates
    (built : scopePredicates registry filters timeframe = .ok ps) :
    (∃ chosen, List.Forall₂ (SearchFilter.Renders registry) filters chosen ∧ chosen <+: ps) ∧
      ∀ p ∈ ps, p.condition ≠ .never := by
  obtain ⟨chosen, asked, rfl⟩ := scopePredicates_eq_ok_iff.1 built
  have each : List.Forall₂ (SearchFilter.Renders registry) filters chosen :=
    (SearchFilter.predicates_eq_ok_iff.1 asked).imp fun _ _ => SearchFilter.renders_of_predicate
  refine ⟨⟨chosen, each, List.prefix_append _ _⟩, fun p member => ?_⟩
  rcases List.mem_append.1 member with member | member
  · obtain ⟨f, -, one⟩ := SearchFilter.exists_of_mem_predicates asked member
    obtain ⟨o, location, -, -, renders⟩ := SearchFilter.renders_of_predicate one
    exact renders.ne_never
  · obtain ⟨t, -, ⟨n, -, rfl⟩ | ⟨n, -, rfl⟩⟩ := mem_timeframePredicates.1 member <;> nofun

end Scope

def SortSpec.Known (spec : SortSpec) : Prop :=
  ∃ f : SortField, spec.field = f.name ∨ spec.field = f.shortName

theorem SortField.exists_ofName?_iff {name : String} :
    (∃ f, ofName? name = some f) ↔ ∃ f : SortField, name = f.name ∨ name = f.shortName := by
  constructor
  · rintro ⟨f, found⟩
    have named := List.find?_some found
    simp only [Bool.or_eq_true, beq_iff_eq] at named
    exact ⟨f, named.imp Eq.symm Eq.symm⟩
  · rintro ⟨f, rfl | rfl⟩ <;> exact ⟨f, by cases f <;> decide⟩

namespace SearchRequest

structure Valid (registry : Registry) (r : SearchRequest) : Prop where
  sort : ∀ spec, r.sort = some spec → spec.Known
  limit : r.limit ≠ some 0
  filters : ∀ f ∈ r.filters, f.Valid registry

inductive Fault (registry : Registry) (r : SearchRequest) : BuildError → Prop
  | sort (spec : SortSpec) : r.sort = some spec → ¬spec.Known →
    Fault registry r (.invalidSortField spec.field)
  | pageSize : (∀ spec, r.sort = some spec → spec.Known) → r.limit = some 0 →
    Fault registry r .invalidPageSize
  | filters {e : BuildError} : (∀ spec, r.sort = some spec → spec.Known) → r.limit ≠ some 0 →
    SearchFilter.FirstFault registry r.filters e → Fault registry r e

variable {r : SearchRequest} {registry : Registry} {boundary : Option Int64} {limits : PageLimits}
  {e : BuildError}

theorem exists_effectiveSort_iff :
    (∃ sorted, r.effectiveSort = .ok sorted) ↔ ∀ spec, r.sort = some spec → spec.Known := by
  unfold effectiveSort SortSpec.Known
  cases r.sort with
  | none => simp
  | some spec =>
    simp only [Option.some.injEq, forall_eq', ← SortField.exists_ofName?_iff]
    cases SortField.ofName? spec.field <;> simp

theorem effectiveSort_eq_error_iff :
    r.effectiveSort = .error e ↔
      ∃ spec, r.sort = some spec ∧ ¬spec.Known ∧ e = .invalidSortField spec.field := by
  unfold effectiveSort SortSpec.Known
  cases r.sort with
  | none => simp
  | some spec =>
    simp only [Option.some.injEq, exists_eq_left', ← SortField.exists_ofName?_iff]
    cases SortField.ofName? spec.field <;> simp [eq_comm]

theorem effectivePageSize_eq_error_iff {limit : Option UInt32} :
    effectivePageSize limit limits = .error e ↔ limit = some 0 ∧ e = .invalidPageSize := by
  unfold effectivePageSize
  cases limit with
  | none => simp
  | some n => by_cases zero : n = 0 <;> simp [zero, eq_comm]

theorem exists_plan_iff :
    (∃ plan, r.plan boundary registry limits = .ok plan) ↔ r.Valid registry := by
  constructor
  · rintro ⟨plan, built⟩
    obtain ⟨sorted, size, scope, inScope, -⟩ := plan_eq_ok_iff.1 built
    exact ⟨exists_effectiveSort_iff.1 ⟨_, sorted⟩, (effectivePageSize_eq_ok_iff.1 size).1,
      exists_scopePredicates_iff.1 ⟨scope, inScope⟩⟩
  · rintro ⟨sort, limit, filters⟩
    obtain ⟨⟨field, direction⟩, sorted⟩ := exists_effectiveSort_iff.2 sort
    have size : effectivePageSize r.limit limits = .ok _ :=
      effectivePageSize_eq_ok_iff.2 ⟨limit, rfl⟩
    obtain ⟨scope, inScope⟩ := exists_scopePredicates_iff.2 filters
    let bound := (boundary.map (boundaryPredicate field direction)).toList
    exact ⟨⟨scope ++ bound, field, direction, _⟩,
      plan_eq_ok_iff.2 ⟨sorted, size, scope, inScope, rfl⟩⟩

theorem plan_eq_error_iff :
    r.plan boundary registry limits = .error e ↔ r.Fault registry e := by
  constructor
  · intro failed
    unfold plan at failed
    split at failed
    · next refused =>
      cases failed
      obtain ⟨spec, asked, unknown, rfl⟩ := effectiveSort_eq_error_iff.1 refused
      exact .sort spec asked unknown
    · next sorted =>
      have sort := exists_effectiveSort_iff.1 ⟨_, sorted⟩
      split at failed
      · next refused =>
        cases failed
        obtain ⟨zero, rfl⟩ := effectivePageSize_eq_error_iff.1 refused
        exact .pageSize sort zero
      · next size =>
        have limit := (effectivePageSize_eq_ok_iff.1 size).1
        split at failed
        · next refused =>
          cases failed
          exact .filters sort limit (scopePredicates_eq_error_iff.1 refused)
        · cases failed
  · intro fault
    cases fault with
    | sort spec asked unknown =>
      have refused := effectiveSort_eq_error_iff.2 ⟨spec, asked, unknown, rfl⟩
      rw [plan, refused]
    | pageSize sort zero =>
      obtain ⟨sorted, known⟩ := exists_effectiveSort_iff.2 sort
      have refused : effectivePageSize r.limit limits = .error .invalidPageSize :=
        effectivePageSize_eq_error_iff.2 ⟨zero, rfl⟩
      rw [plan, known, refused]
    | filters sort limit first =>
      obtain ⟨sorted, known⟩ := exists_effectiveSort_iff.2 sort
      have size : effectivePageSize r.limit limits = .ok _ :=
        effectivePageSize_eq_ok_iff.2 ⟨limit, rfl⟩
      rw [plan, known, size, scopePredicates_eq_error_iff.2 first]

theorem renders_of_plan {plan : SearchPlan} (built : r.plan boundary registry limits = .ok plan) :
    (∃ chosen, List.Forall₂ (SearchFilter.Renders registry) r.filters chosen ∧
      chosen <+: plan.predicates) ∧ ∀ p ∈ plan.predicates, p.condition ≠ .never := by
  obtain ⟨-, -, scope, inScope, predicates⟩ := plan_eq_ok_iff.1 built
  obtain ⟨⟨chosen, each, first⟩, asked⟩ := renders_of_scopePredicates inScope
  rw [predicates]
  refine ⟨⟨chosen, each, first.trans (List.prefix_append _ _)⟩, fun p member => ?_⟩
  rcases List.mem_append.1 member with member | member
  · exact asked p member
  · cases boundary with
    | none => cases member
    | some b =>
      rw [List.mem_singleton.1 member]
      nofun

end SearchRequest

namespace TagValuesRequest

structure Valid (registry : Registry) (tag : String) (r : TagValuesRequest) : Prop where
  tag : registry.Accepts tag
  filters : ∀ f ∈ r.filters, f.Valid registry

inductive Fault (registry : Registry) (tag : String) (r : TagValuesRequest) : BuildError → Prop
  | tag (fault : KeyFault) : registry.Faulty tag fault →
    Fault registry tag r (.malformedKey tag fault)
  | filters {e : BuildError} : registry.Accepts tag →
    SearchFilter.FirstFault registry r.filters e → Fault registry tag r e

variable {r : TagValuesRequest} {registry : Registry} {tag : String} {maxValues : Option UInt32}
  {e : BuildError}

theorem exists_plan_iff :
    (∃ plan, r.plan tag registry maxValues = .ok plan) ↔ r.Valid registry tag := by
  constructor
  · rintro ⟨plan, built⟩
    obtain ⟨resolved, inScope, -⟩ := plan_eq_ok_iff.1 built
    exact ⟨Registry.exists_resolve_iff_accepts.1 ⟨_, resolved⟩,
      exists_scopePredicates_iff.1 ⟨_, inScope⟩⟩
  · rintro ⟨accepts, filters⟩
    obtain ⟨location, resolved⟩ := Registry.exists_resolve_iff_accepts.2 accepts
    obtain ⟨scope, inScope⟩ := exists_scopePredicates_iff.2 filters
    exact ⟨⟨location, scope, maxValues⟩, plan_eq_ok_iff.2 ⟨resolved, inScope, rfl⟩⟩

theorem plan_eq_error_iff :
    r.plan tag registry maxValues = .error e ↔ r.Fault registry tag e := by
  constructor
  · intro failed
    unfold plan at failed
    split at failed
    · next refused =>
      cases failed
      obtain ⟨fault, faulty, rfl⟩ := Registry.resolve_eq_error_iff.1 refused
      exact .tag fault faulty
    · next resolved =>
      have accepts := Registry.exists_resolve_iff_accepts.1 ⟨_, resolved⟩
      split at failed
      · next refused =>
        cases failed
        exact .filters accepts (scopePredicates_eq_error_iff.1 refused)
      · cases failed
  · intro fault
    cases fault with
    | tag fault faulty =>
      have refused := Registry.resolve_eq_error_iff.2 ⟨fault, faulty, rfl⟩
      rw [plan, refused]
    | filters accepts first =>
      obtain ⟨location, resolved⟩ := Registry.exists_resolve_iff_accepts.2 accepts
      rw [plan, resolved, scopePredicates_eq_error_iff.2 first]

end TagValuesRequest

/--
Both kinds of request become plans exactly if nothing about them is at fault, and else the error is
that of their first fault. In a plan each filter is asked in the way of its operator where its key
leads, on elements in that of the positive counterpart if the operator is negative, and nothing is
asked that never holds.
-/
theorem plans_exist_or_report_first_fault (registry : Registry) :
    (∀ (r : SearchRequest) (boundary : Option Int64) (limits : PageLimits),
      ((∃ plan, r.plan boundary registry limits = .ok plan) ↔ r.Valid registry) ∧
      (∀ e, r.plan boundary registry limits = .error e ↔ r.Fault registry e) ∧
      ∀ plan, r.plan boundary registry limits = .ok plan →
        (∃ chosen, List.Forall₂ (SearchFilter.Renders registry) r.filters chosen ∧
          chosen <+: plan.predicates) ∧ ∀ p ∈ plan.predicates, p.condition ≠ .never) ∧
    ∀ (r : TagValuesRequest) (tag : String) (maxValues : Option UInt32),
      ((∃ plan, r.plan tag registry maxValues = .ok plan) ↔ r.Valid registry tag) ∧
      (∀ e, r.plan tag registry maxValues = .error e ↔ r.Fault registry tag e) ∧
      ∀ plan, r.plan tag registry maxValues = .ok plan →
        (∃ chosen, List.Forall₂ (SearchFilter.Renders registry) r.filters chosen ∧
          chosen <+: plan.predicates) ∧ ∀ p ∈ plan.predicates, p.condition ≠ .never := by
  constructor
  · intro r boundary limits
    exact ⟨SearchRequest.exists_plan_iff, fun e => SearchRequest.plan_eq_error_iff,
      fun plan built => SearchRequest.renders_of_plan built⟩
  · intro r tag maxValues
    refine ⟨TagValuesRequest.exists_plan_iff, fun e => TagValuesRequest.plan_eq_error_iff, ?_⟩
    intro plan built
    exact renders_of_scopePredicates (TagValuesRequest.plan_eq_ok_iff.1 built).2.1

/-- An empty list is reported before the empty key that it is for, and before an operator that is
not known; a tag without a name is reported before them. -/
theorem plans_exist_or_report_first_fault_twice :
    let registry : Registry := NameMap.empty.insert "link." ⟨.number, "spans.a"⟩
    let registered : SearchFilter := ⟨"link.", "not_in", some (.list [.integer 1])⟩
    let nested : SearchFilter := ⟨"event.level", "not_contains", some (.scalar (.text "x"))⟩
    let faulty : SearchFilter := ⟨"", "in", some (.list [])⟩
    let unknown : SearchFilter := ⟨"x", "like", none⟩
    let request : SearchRequest :=
      ⟨[registered, nested], none, some ⟨"duration", .ascending⟩, none, some 5⟩
    let plan : SearchPlan :=
      ⟨[.test (.column "spans.a") (.notIn [.integer 1]),
          .noElement "spans.events" "$.attributes.\"level\"" (.like "%x%")],
        .duration, .ascending, 5⟩
    request.plan none registry .standard = .ok plan ∧
      List.Forall₂ (SearchFilter.Renders registry) request.filters plan.predicates ∧
      SearchRequest.plan ⟨[registered, faulty, unknown], none, none, none, none⟩ none registry
        .standard = .error (.invalidValue "" .isIn) ∧
      TagValuesRequest.plan ⟨[faulty], none⟩ "event." registry none =
        .error (.malformedKey "event." .noName) := by
  intro registry registered nested faulty unknown request plan
  have built : request.plan none registry .standard = .ok plan := by decide +kernel
  obtain ⟨search, values⟩ := plans_exist_or_report_first_fault registry
  obtain ⟨⟨chosen, each, first⟩, -⟩ := (search request none .standard).2.2 plan built
  have all : chosen = plan.predicates := first.eq_of_length each.length_eq.symm
  have valid : registered.Valid registry :=
    ⟨⟨.notIn, rfl, _, rfl, by decide⟩, .inl ⟨⟨.number, "spans.a"⟩, rfl⟩⟩
  have fault : faulty.Fault registry (.invalidValue "" .isIn) := by
    refine .value .isIn rfl ?_
    rintro ⟨items, same, nonempty⟩
    cases same
    exact nonempty rfl
  refine ⟨built, all ▸ each, ((search _ none .standard).2.1 _).2 ?_, ((values _ _ none).2.1 _).2 ?_⟩
  · refine .filters nofun nofun ⟨[registered], faulty, [unknown], rfl, ?_, fault⟩
    simpa using valid
  · exact .tag .noName (.noName .event rfl rfl)

end TraceQuery
