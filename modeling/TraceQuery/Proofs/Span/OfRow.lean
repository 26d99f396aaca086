import TraceQuery.Proofs.Span.Cursor
import TraceQuery.Span.OfRow

/-!
A row that is a span holds every value of it, each in a column of its own. The column that a
search sorts by holds the sort value, so the token of a span stands for what its row holds there.
-/

set_option autoImplicit false
namespace TraceQuery

theorem bind_eq_ok {ε α β : Type} {x : Except ε α} {f : α → Except ε β} {b : β} :
    (x >>= f) = .ok b ↔ ∃ a, x = .ok a ∧ f a = .ok b := by
  cases x <;> simp [bind, Except.bind]

/-- The columns of a row that is this span. -/
structure Row.Holds (r : Row) (s : Span) : Prop where
  count : r.columns.length = spanColumns.length
  startTime : r.uint64 SpanColumn.startTime = .ok s.startTimeUnixNano
  endTime : r.uint64 SpanColumn.endTime = .ok s.endTimeUnixNano
  duration : r.duration s.startTimeUnixNano s.endTimeUnixNano = .ok s.durationNano
  spanId : r.text SpanColumn.spanId = .ok s.spanId
  traceId : r.text SpanColumn.traceId = .ok s.traceId
  traceState : r.text? SpanColumn.traceState = .ok s.traceState
  parentSpanId : r.text? SpanColumn.parentSpanId = .ok s.parentSpanId
  name : r.text SpanColumn.name = .ok s.name
  kind : r.int32 SpanColumn.kind = .ok s.kind
  statusCode : r.int32 SpanColumn.statusCode = .ok s.status.code
  statusMessage : r.text? SpanColumn.statusMessage = .ok s.status.message
  ingestionTime : r.uint64 SpanColumn.ingestionTime = .ok s.ingestionTimeUnixNano
  attributes : r.json SpanColumn.attributes [] .members = .ok s.attributes
  droppedAttributes : r.count SpanColumn.droppedAttributes = .ok s.droppedAttributesCount
  events : r.json SpanColumn.events [] (.list SpanEvent.decoder) = .ok s.events
  droppedEvents : r.count SpanColumn.droppedEvents = .ok s.droppedEventsCount
  links : r.json SpanColumn.links [] (.list SpanLink.decoder) = .ok s.links
  droppedLinks : r.count SpanColumn.droppedLinks = .ok s.droppedLinksCount
  scopeName : r.text? SpanColumn.scopeName = .ok s.scope.name
  scopeVersion : r.text? SpanColumn.scopeVersion = .ok s.scope.version
  scopeAttributes : r.json SpanColumn.scopeAttributes [] .members = .ok s.scope.attributes
  scopeDroppedAttributes :
    r.count SpanColumn.scopeDroppedAttributes = .ok s.scope.droppedAttributesCount
  resourceAttributes : r.json SpanColumn.resourceAttributes [] .members = .ok s.resource.attributes
  resourceDroppedAttributes :
    r.count SpanColumn.resourceDroppedAttributes = .ok s.resource.droppedAttributesCount

theorem Row.expectColumns_eq_ok_iff {r : Row} {n : Nat} {u : Unit} :
    r.expectColumns n = .ok u ↔ r.columns.length = n := by
  unfold expectColumns
  by_cases same : r.columns.length = n <;> simp [same]

theorem Span.ofRow_eq_ok_iff {r : Row} {s : Span} : Span.ofRow r = .ok s ↔ r.Holds s := by
  unfold Span.ofRow
  simp only [bind_eq_ok, Row.expectColumns_eq_ok_iff]
  constructor
  · rintro ⟨_, count, start, h1, stop, h2, duration, h3, spanId, h4, traceId, h5, traceState, h6,
      parentSpanId, h7, name, h8, kind, h9, statusCode, h10, statusMessage, h11, ingestion, h12,
      attributes, h13, dropped, h14, events, h15, droppedEvents, h16, links, h17, droppedLinks, h18,
      scopeName, h19, scopeVersion, h20, scopeAttributes, h21, scopeDropped, h22,
      resourceAttributes, h23, resourceDropped, h24, same⟩
    cases same
    exact ⟨count, h1, h2, h3, h4, h5, h6, h7, h8, h9, h10, h11, h12, h13, h14, h15, h16, h17, h18,
      h19, h20, h21, h22, h23, h24⟩
  · intro holds
    exact ⟨(), holds.count, _, holds.startTime, _, holds.endTime, _, holds.duration, _,
      holds.spanId, _, holds.traceId, _, holds.traceState, _, holds.parentSpanId, _, holds.name, _,
      holds.kind, _, holds.statusCode, _, holds.statusMessage, _, holds.ingestionTime, _,
      holds.attributes, _, holds.droppedAttributes, _, holds.events, _, holds.droppedEvents, _,
      holds.links, _, holds.droppedLinks, _, holds.scopeName, _, holds.scopeVersion, _,
      holds.scopeAttributes, _, holds.scopeDroppedAttributes, _, holds.resourceAttributes, _,
      holds.resourceDroppedAttributes, rfl⟩

/-! ## What is sorted by -/

namespace Row

/-- What a row returned by a search holds in a column; nothing is null. -/
def value (r : Row) (column : String) : ColumnValue :=
  (r.columns[spanColumns.idxOf column]?).getD .null

theorem get_eq_ok_iff {r : Row} {index : Nat} {v : ColumnValue} :
    r.get index = .ok v ↔ r.columns[index]? = some v := by
  unfold get
  cases r.columns[index]? <;> simp

theorem int64_eq_ok_iff {r : Row} {index : Nat} {n : Int64} :
    r.int64 index = .ok n ↔ r.columns[index]? = some (.integer n) := by
  rw [int64, bind_eq_ok, ← get_eq_ok_iff]
  constructor
  · rintro ⟨v, column, read⟩
    cases v with
    | integer m =>
      cases read
      exact column
    | _ => cases read
  · exact fun column => ⟨_, column, rfl⟩

theorem fitting_eq_ok_iff {α : Type} {word? : Int → Option α} {index : Nat} {n : Int64} {a : α} :
    fitting word? index n = .ok a ↔ word? n.toInt = some a := by
  unfold fitting
  cases word? n.toInt <;> simp

theorem uint64_eq_ok_iff {r : Row} {index : Nat} {w : UInt64} :
    r.uint64 index = .ok w ↔
      ∃ n, r.columns[index]? = some (.integer n) ∧ (w.toNat : Int) = n.toInt := by
  simp only [uint64, bind_eq_ok, int64_eq_ok_iff, fitting_eq_ok_iff, Word.uint64?_eq_some_iff]

theorem uint64_of_integer {r : Row} {index : Nat} {n : Int64} {w : UInt64}
    (stored : r.columns[index]? = some (.integer n)) (read : r.uint64 index = .ok w) :
    (w.toNat : Int) = n.toInt := by
  obtain ⟨m, column, value⟩ := uint64_eq_ok_iff.1 read
  rw [stored] at column
  cases column
  exact value

theorem duration_of_integer {r : Row} {n : Int64} {startTime endTime w : UInt64}
    (stored : r.columns[SpanColumn.duration]? = some (.integer n))
    (read : r.duration startTime endTime = .ok w) : (w.toNat : Int) = n.toInt := by
  have whole : r.int64? SpanColumn.duration = .ok (some n) := by
    simp [int64?, get_eq_ok_iff.2 stored, bind, Except.bind]
  rw [duration, whole] at read
  exact Word.uint64?_eq_some_iff.1 (fitting_eq_ok_iff.1 read)

theorem getElem?_of_value {r : Row} {column : String} {n : Int64}
    (stored : r.value column = .integer n) :
    r.columns[spanColumns.idxOf column]? = some (.integer n) := by
  unfold value at stored
  cases found : r.columns[spanColumns.idxOf column]? with
  | none => simp [found] at stored
  | some v => simpa [found] using stored

end Row

theorem Span.sortValue_of_ofRow {r : Row} {s : Span} {sort : SortField} {n : Int64}
    (read : Span.ofRow r = .ok s) (stored : r.value sort.column = .integer n) :
    ((s.sortValue sort).toNat : Int) = n.toInt := by
  have holds := ofRow_eq_ok_iff.1 read
  have found := Row.getElem?_of_value stored
  -- The position of each sort column in the statement is the one that its field is read from.
  cases sort with
  | startTime => exact Row.uint64_of_integer found holds.startTime
  | endTime => exact Row.uint64_of_integer found holds.endTime
  | duration => exact Row.duration_of_integer found holds.duration
  | ingestionTime => exact Row.uint64_of_integer found holds.ingestionTime

/-- A row with a start time and a duration, and as little as a span has of everything else. -/
def Row.timed (id : String) (startTime duration : Int64) : Row where
  columns :=
    [ .text id, .text "", .null, .null, .text "", .null, .integer startTime
    , .integer (startTime + duration), .null, .null, .null, .null, .null, .integer duration
    , .integer 0, .null, .null, .null, .null, .null, .null, .null, .null, .null ]

theorem Row.value_timed (id : String) (startTime duration : Int64) :
    (timed id startTime duration).value SortField.startTime.column = .integer startTime := by
  rfl

theorem PageToken.boundary?_of_ofRow {r : Row} {s : Span} {sort : SortField} {n : Int64}
    (read : Span.ofRow r = .ok s) (stored : r.value sort.column = .integer n) :
    (ofSortValue (s.sortValue sort)).boundary? = some n :=
  boundary?_ofSortValue_of_eq (Span.sortValue_of_ofRow read stored)

end TraceQuery
