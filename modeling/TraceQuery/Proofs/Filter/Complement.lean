import TraceQuery.Proofs.Query.Plan
import TraceQuery.Proofs.Sql.Like
import TraceQuery.Proofs.Sql.Truth

/-!
A negative filter finds exactly the spans that its positive counterpart does not, also where the
tag is absent or null, and wherever the tag is stored. On the elements of an array a negative
filter holds if it holds of each of them, and every other filter if it holds of one.
-/

set_option autoImplicit false
namespace TraceQuery

open Sql (BindValue Condition Operand Predicate Primitives Record)

/-! ## Conditions on known values -/

namespace Sql

namespace Primitives

variable (p : Primitives) {v : ColumnValue}

theorem among_ne_true (null : v.isNull = true) (values : List BindValue) :
    p.among v values ≠ .true := by
  induction values with
  | nil => simp [among]
  | cons b rest ih => simpa [among, compared, null] using ih

theorem among_ne_unknown (present : v.isNull = false) (values : List BindValue) :
    p.among v values ≠ .unknown := by
  induction values with
  | nil => simp [among]
  | cons b rest ih =>
    have first : p.compared .equal v b ≠ .unknown := by simp [compared, present]
    exact Truth.or_ne_unknown first ih

theorem like_ne_true (null : v.isNull = true) (pattern : String) : p.like v pattern ≠ .true := by
  simp [like, null]

theorem like_ne_unknown (present : v.isNull = false) (pattern : String) :
    p.like v pattern ≠ .unknown := by
  simp [like, present]

end Primitives

def Condition.verdict (p : Primitives) (v presence : ColumnValue) : Condition → Truth
  | .compare comparison b => p.compared comparison v b
  | .isIn values => p.among v values
  | .notIn values => (Truth.ofBool v.isNull).or (p.among v values).not
  | .like pattern => p.like v pattern
  | .notLike pattern => (Truth.ofBool v.isNull).or (p.like v pattern).not
  | .present => .ofBool !presence.isNull
  | .absent => .ofBool presence.isNull
  | .never => .false

structure Operand.Reads (x : Operand) (p : Primitives) (r : Record) (v presence : ColumnValue) :
    Prop where
  value : x.valueTerm.value? p r = some v
  presence : x.presenceTerm.value? p r = some presence

variable {p : Primitives} {r : Record} {x : Operand} {v u : ColumnValue}

theorem Operand.reads_column (name : String) :
    (column name).Reads p r (r.value name) (r.value name) :=
  ⟨rfl, rfl⟩

theorem Operand.reads_member {document : String} {j : Json} (stored : r.json? document = some j)
    (path : String) :
    (member document path).Reads p r (p.extracted (p.member? j path))
      (Primitives.typeOf (p.member? j path)) := by
  constructor <;> simp [valueTerm, presenceTerm, Term.value?, stored]

theorem Operand.Reads.truth? (reads : x.Reads p r v u) (c : Condition) :
    (Predicate.test x c).truth? p r = some (c.verdict p v u) := by
  rw [Predicate.truth?, Predicate.expression]
  cases c <;>
    simp [Condition.expression, Expression.truth?, Condition.verdict, reads.value, reads.presence]

end Sql

/-- The positive counterpart is denied, and null is let in. -/
theorem Operator.verdict_of_isNegative {o : Operator} (negative : o.isNegative)
    {value : Option FilterValue} {argument : Argument}
    (accepted : o.argument? value = some argument) (p : Primitives) (v presence : ColumnValue) :
    (o.condition argument).verdict p v presence = .true ↔
      (o.positive.condition argument).verdict p v presence ≠ .true := by
  -- Of the operators that take an argument of one shape, at most one is negative.
  rcases argument?_cases accepted with ⟨shape, -, rfl⟩ | ⟨shape, s, -, rfl⟩ | ⟨shape, s, -, rfl⟩ |
    ⟨shape, item, items, -, rfl⟩
  · cases o <;> cases shape <;> cases negative
    simp [condition, positive, Condition.verdict]
  · cases o <;> cases shape <;> cases negative
  · cases o <;> cases shape <;> cases negative
    exact Truth.ofBool_or_not_eq_true_iff (p.like_ne_true · _) (p.like_ne_unknown · _)
  · cases o <;> cases shape <;> cases negative
    exact Truth.ofBool_or_not_eq_true_iff (p.among_ne_true · _) (p.among_ne_unknown · _)

/-! ## Elements of an array -/

namespace Sql

theorem anyTrue?_of_known {f : Json → Option Truth} {items : List Json}
    (known : ∀ item ∈ items, ∃ t, f item = some t) :
    ∃ found, anyTrue? f items = some found ∧
      (found = true ↔ ∃ item ∈ items, f item = some .true) := by
  induction items with
  | nil => exact ⟨false, rfl, by simp⟩
  | cons item rest ih =>
    obtain ⟨t, first⟩ := known item List.mem_cons_self
    obtain ⟨found, others, holds⟩ := ih fun other member => known other (.tail item member)
    refine ⟨t = .true || found, by simp [anyTrue?, first, others], ?_⟩
    simp [first, holds]

variable {p : Primitives} {r : Record}

theorem Record.json?_withElement {item : Json} (object : item.isObject = true) :
    (r.withElement p item).json? "nested_item.value" = some item := by
  simp [withElement, object]

theorem Predicate.truth?_someElement {column : String} {items : List Json}
    (stored : r.json? column = some (.array items)) (objects : ∀ item ∈ items, item.isObject)
    (path : String) (c : Condition) :
    ∃ found, (someElement column path c).truth? p r = some (.ofBool found) ∧
      (noElement column path c).truth? p r = some (Truth.ofBool found).not ∧
      (found = true ↔
        ∃ item ∈ items, (test (element path) c).truth? p (r.withElement p item) = some .true) := by
  have known : ∀ item ∈ items, ∃ t,
      (test (element path) c).truth? p (r.withElement p item) = some t := by
    intro item member
    exact ⟨_, (Operand.reads_member (Record.json?_withElement (objects item member)) path).truth? c⟩
  obtain ⟨found, any, holds⟩ := anyTrue?_of_known known
  have shown : (someElement column path c).truth? p r = some (.ofBool found) := by
    have listed : r.elements? column = some items := by simp [Record.elements?, stored]
    have inner : anyTrue? (fun item =>
        (c.expression (element path)).truth? p (r.withElement p item)) items = some found := any
    simp [truth?, expression, Expression.truth?, listed, inner]
  refine ⟨found, shown, ?_, holds⟩
  -- `NOT EXISTS` denies what `EXISTS` has found.
  have denied : (noElement column path c).truth? p r =
      ((someElement column path c).truth? p r).map .not := rfl
  rw [denied, shown, Option.map_some]

end Sql

/-! ## Filters on stored spans -/

namespace Operator

theorem isNegative_positive (o : Operator) : o.positive.isNegative = false := by
  cases o <;> rfl

theorem positive_positive (o : Operator) : o.positive.positive = o.positive := by
  cases o <;> rfl

theorem positive_of_not_isNegative {o : Operator} (other : ¬o.isNegative) : o.positive = o := by
  cases o <;> first | rfl | exact absurd rfl other

def onElement (o : Operator) (argument : Argument) (path : String) (p : Primitives) (r : Record)
    (item : Json) : Option Truth :=
  (Predicate.test (Predicate.element path) (o.condition argument)).truth? p (r.withElement p item)

end Operator

/-- The row stores what a location leads to in the shape that the location has. -/
def Sql.Record.Holds (r : Record) : TagLocation → Prop
  | .column _ => True
  | .attribute document _ => ∃ j, r.json? document = some j
  | .element document _ =>
    ∃ items, r.json? document = some (.array items) ∧ ∀ item ∈ items, item.isObject

/-- A row of the span table: its attributes are objects, its events and links arrays of objects. -/
structure StoredSpan extends Sql.Record where
  attributes (source : AttributeSource) : source.isNested = false →
    ∃ members, json? source.column = some (.object members)
  elements (source : AttributeSource) : source.isNested = true →
    ∃ items, json? source.column = some (.array items) ∧ ∀ item ∈ items, item.isObject

theorem StoredSpan.holds_of_resolve (s : StoredSpan) {registry : Registry} {key : String}
    {location : TagLocation} (resolved : registry.resolve key = .ok location) :
    s.Holds location := by
  obtain ⟨tag, -, rfl⟩ | ⟨source, field, rfl⟩ := Registry.resolve_cases resolved
  · trivial
  -- Whether a source is nested decides both the location and what its column stores.
  · unfold AttributeSource.location
    cases nested : source.isNested with
    | true => exact s.elements source nested
    | false =>
      obtain ⟨members, stored⟩ := s.attributes source nested
      exact ⟨.object members, stored⟩

section Located

variable {p : Primitives} {r : Record} {location : TagLocation}

theorem Operator.exists_truth? (holds : r.Holds location) (o : Operator) (argument : Argument) :
    ∃ t, (o.predicate argument location).truth? p r = some t := by
  cases location with
  | column name => exact ⟨_, (Sql.Operand.reads_column name).truth? _⟩
  | «attribute» document path =>
    obtain ⟨j, stored⟩ := holds
    exact ⟨_, (Sql.Operand.reads_member stored path).truth? _⟩
  | element document path =>
    obtain ⟨items, stored, objects⟩ := holds
    obtain ⟨found, shown, denied, -⟩ :=
      Predicate.truth?_someElement stored objects path (o.positive.condition argument)
    rw [predicate]
    split
    · exact ⟨_, denied⟩
    · exact ⟨_, shown⟩

theorem Operator.truth?_test_of_isNegative {x : Sql.Operand} {v u : ColumnValue}
    (reads : x.Reads p r v u) {o : Operator} (negative : o.isNegative)
    {value : Option FilterValue} {argument : Argument}
    (accepted : o.argument? value = some argument) :
    (Predicate.test x (o.condition argument)).truth? p r = some .true ↔
      (Predicate.test x (o.positive.condition argument)).truth? p r ≠ some .true := by
  rw [reads.truth?, reads.truth?]
  simpa using verdict_of_isNegative negative accepted p v u

theorem Operator.truth?_of_isNegative (holds : r.Holds location) {o : Operator}
    (negative : o.isNegative) {value : Option FilterValue} {argument : Argument}
    (accepted : o.argument? value = some argument) :
    (o.predicate argument location).truth? p r = some .true ↔
      (o.positive.predicate argument location).truth? p r ≠ some .true := by
  cases location with
  | column name => exact truth?_test_of_isNegative (Sql.Operand.reads_column name) negative accepted
  | «attribute» document path =>
    obtain ⟨j, stored⟩ := holds
    exact truth?_test_of_isNegative (Sql.Operand.reads_member stored path) negative accepted
  | element document path =>
    obtain ⟨items, stored, objects⟩ := holds
    obtain ⟨found, shown, denied, -⟩ :=
      Predicate.truth?_someElement (p := p) stored objects path (o.positive.condition argument)
    simp only [predicate, negative, isNegative_positive, positive_positive, if_true,
      Bool.false_eq_true, if_false, shown, denied]
    simpa using Truth.not_eq_true_iff (Truth.ofBool_ne_unknown found)

theorem Operator.truth?_elements {document path : String} {items : List Json}
    (stored : r.json? document = some (.array items)) (objects : ∀ item ∈ items, item.isObject)
    {o : Operator} {value : Option FilterValue} {argument : Argument}
    (accepted : o.argument? value = some argument) :
    (o.predicate argument (.element document path)).truth? p r = some .true ↔
      if o.isNegative then ∀ item ∈ items, o.onElement argument path p r item = some .true
      else ∃ item ∈ items, o.onElement argument path p r item = some .true := by
  obtain ⟨found, shown, denied, holds⟩ :=
    Predicate.truth?_someElement (p := p) stored objects path (o.positive.condition argument)
  by_cases negative : o.isNegative
  · have missing : (Truth.ofBool found).not = .true ↔ ¬found = true := by
      simpa using Truth.not_eq_true_iff (Truth.ofBool_ne_unknown found)
    rw [predicate, if_pos negative, if_pos negative, denied, Option.some_inj, missing, holds]
    simp only [not_exists, not_and]
    -- What no element has of the positive condition, each has of the negative one.
    refine forall₂_congr fun item member => ?_
    have stands := Record.json?_withElement (r := r) (p := p) (objects item member)
    exact (truth?_test_of_isNegative (Sql.Operand.reads_member stands path) negative accepted).symm
  · rw [predicate, if_neg negative, if_neg negative, shown, Option.some_inj,
      Truth.ofBool_eq_true_iff, holds, positive_of_not_isNegative negative]
    rfl

end Located

/--
A filter is read as the SQL that it is written as, and is decided of every stored span. A negative
one is true exactly where the filter with the positive counterpart is not. On the elements of an
array a negative one is true if its own condition is true of each, and any other if its condition
is true of one.
-/
theorem negative_filters_complement (p : Primitives) {registry : Registry} {key : String}
    {location : TagLocation} (resolved : registry.resolve key = .ok location) {o : Operator}
    {value : Option FilterValue} {argument : Argument}
    (accepted : o.argument? value = some argument) (s : StoredSpan) :
    ∃ q t, SearchFilter.predicate ⟨key, o.name, value⟩ registry = .ok q ∧
      q.expression.text = q.text ∧ q.expression.params = q.params ∧
      q.truth? p s.toRecord = some t ∧
      (o.isNegative → ∃ q' t',
        SearchFilter.predicate ⟨key, o.positive.name, value⟩ registry = .ok q' ∧
          q'.expression.text = q'.text ∧ q'.expression.params = q'.params ∧
          q'.truth? p s.toRecord = some t' ∧ (t = .true ↔ t' ≠ .true)) ∧
      ∀ document path, location = .element document path →
        ∃ items, s.json? document = some (.array items) ∧
          (t = .true ↔
            if o.isNegative then
              ∀ item ∈ items, o.onElement argument path p s.toRecord item = some .true
            else ∃ item ∈ items, o.onElement argument path p s.toRecord item = some .true) := by
  have holds := s.holds_of_resolve resolved
  obtain ⟨t, shown⟩ := o.exists_truth? (p := p) holds argument
  have truth : t = .true ↔ (o.predicate argument location).truth? p s.toRecord = some .true := by
    rw [shown, Option.some_inj]
  refine ⟨o.predicate argument location, t,
    SearchFilter.predicate_eq_ok_iff.2
      ⟨o, argument, location, o.ofName?_name, accepted, resolved, rfl⟩,
    Predicate.text_expression _, Predicate.params_expression _, shown, ?complement, ?elements⟩
  case complement =>
    intro negative
    obtain ⟨t', shown'⟩ := o.positive.exists_truth? (p := p) holds argument
    have counterpart : o.positive.argument? value = some argument := by
      rw [Operator.argument?_positive, accepted]
    refine ⟨o.positive.predicate argument location, t',
      SearchFilter.predicate_eq_ok_iff.2
        ⟨o.positive, argument, location, o.positive.ofName?_name, counterpart, resolved, rfl⟩,
      Predicate.text_expression _, Predicate.params_expression _, shown', ?_⟩
    rw [truth, Operator.truth?_of_isNegative holds negative accepted, shown', ne_eq,
      Option.some_inj]
  case elements =>
    rintro document path rfl
    obtain ⟨items, stored, objects⟩ := holds
    exact ⟨items, stored, truth.trans (Operator.truth?_elements stored objects accepted)⟩

/-! ## Spans with texts in their events -/

def Json.member? (key : String) : Json → Option Json
  | .object members => members.lookup key
  | _ => none

def Json.follow? (j : Json) (path : String) : Option Json :=
  let label := String.ofList ((path.toList.dropWhile (· != '"')).drop 1).dropLast
  if "$.attributes.".toList.isPrefixOf path.toList then
    (j.member? "attributes").bind (member? label)
  else j.member? label

/-- A store in which every attribute is a text. -/
def Sql.Primitives.ofTexts : Primitives where
  member? := Json.follow?
  plain j := .text (match j with | .string s => s | j => j.render)
  compares comparison v b :=
    match v, b, comparison with
    | .text s, .text t, .equal => s = t
    | .text s, .text t, .greater => t < s
    | .text s, .text t, .greaterOrEqual => t ≤ s
    | .text s, .text t, .less => s < t
    | .text s, .text t, .lessOrEqual => s ≤ t
    | _, _, _ => false
  resembles v pattern :=
    match v with
    | .text s => Sql.Like.resembles false pattern.toList s.toList
    | _ => false

def StoredSpan.ofEvents (events : List Json) (objects : ∀ item ∈ events, item.isObject) :
    StoredSpan where
  value _ := .null
  json? name :=
    if name = "spans.events" then some (.array events)
    else if name = "spans.links" then some (.array [])
    else some (.object [])
  attributes source flat := by cases source <;> first | exact ⟨[], rfl⟩ | cases flat
  elements source nested := by
    cases source <;> first | exact ⟨events, rfl, objects⟩ | exact ⟨[], rfl, by simp⟩ | cases nested

/-- No event has the text: one has another, one a null, and one has no attributes. -/
theorem negative_filters_complement_events :
    let level (level : Json) : Json := .object [("attributes", .object [("level", level)])]
    let events := [level (.string "late"), level .null, .object []]
    let s := StoredSpan.ofEvents events (by decide)
    let path := "$.attributes.\"level\""
    let location : TagLocation := .element "spans.events" path
    let value : Option FilterValue := some (.scalar (.text "err"))
    Registry.standard.resolve "event.level" = .ok location ∧
      Operator.notContains.argument? value = some (.text "err") ∧
      ∃ q q' t', SearchFilter.predicate ⟨"event.level", "not_contains", value⟩ .standard = .ok q ∧
        SearchFilter.predicate ⟨"event.level", "contains", value⟩ .standard = .ok q' ∧
        q.truth? .ofTexts s.toRecord = some .true ∧
        q'.truth? .ofTexts s.toRecord = some t' ∧ t' ≠ .true ∧
        ∀ item ∈ events,
          Operator.notContains.onElement (.text "err") path .ofTexts s.toRecord item =
            some .true := by
  intro level events s path location value
  have resolved : Registry.standard.resolve "event.level" = .ok location := by decide +kernel
  have accepted : Operator.notContains.argument? value = some (.text "err") := rfl
  obtain ⟨q, t, built, -, -, shown, complement, elements⟩ :=
    negative_filters_complement .ofTexts resolved accepted s
  obtain ⟨q', t', built', -, -, shown', denied⟩ := complement rfl
  obtain ⟨items, stored, each⟩ := elements _ _ rfl
  obtain rfl : events = items := Json.array.inj (Option.some.inj stored)
  have quiet : ∀ item ∈ events,
      Operator.notContains.onElement (.text "err") path .ofTexts s.toRecord item = some .true := by
    decide +kernel
  have holds : t = .true := each.2 quiet
  exact ⟨resolved, accepted, q, q', t', built, built', by rw [shown, holds], shown',
    denied.1 holds, quiet⟩

end TraceQuery
