import TraceQuery.Proofs.Span.OfRow

/-!
Which rows are spans, what their columns mean, and why a row is none. The columns are read one after
the other, and the first that may not hold what it holds is the one that is reported.
-/

set_option autoImplicit false
namespace TraceQuery

open Json (Decoder Tree)

/-! ## What columns mean -/

namespace ColumnValue

def IsTime : ColumnValue → UInt64 → Prop
  | .integer n, w => (w.toNat : Int) = n.toInt
  | _, _ => False

/-- Nothing stands for the time from start to end, and for zero if that is negative. -/
def IsDuration (start stop : UInt64) : ColumnValue → UInt64 → Prop
  | .null, w => (w.toNat : Int) = max 0 (stop.toNat - start.toNat)
  | .integer n, w => (w.toNat : Int) = n.toInt
  | _, _ => False

def IsText : ColumnValue → String → Prop
  | .text s, t => t = s
  | _, _ => False

def IsOptionalText : ColumnValue → Option String → Prop
  | .null, t => t = none
  | .text s, t => t = some s
  | _, _ => False

def IsInt32 : ColumnValue → Int32 → Prop
  | .null, w => w = 0
  | .integer n, w => w.toInt = n.toInt
  | _, _ => False

def IsCounter : ColumnValue → UInt32 → Prop
  | .null, w => w = 0
  | .integer n, w => (w.toNat : Int) = n.toInt
  | _, _ => False

/-- Nothing and the empty text stand for what is empty. -/
def IsJson {α : Type} (d : Decoder α) (empty : α) : ColumnValue → α → Prop
  | .null, a => a = empty
  | .text s, a => if s = "" then a = empty else d.read? s = some a
  | .blob bytes, a => (Tree.ofScalars? (Utf8.scalars bytes)).bind d.decode? = some a
  | _, _ => False

end ColumnValue

/-! ## What columns may hold -/

inductive Document
  | attributes
  | events
  | links
  deriving DecidableEq, Repr

inductive ColumnRule
  | time
  | duration
  | text
  | optionalText
  | int32
  | counter
  | document (kind : Document)
  deriving DecidableEq, Repr

def Document.Stands : Document → ColumnValue → Prop
  | .attributes, v => ∃ a, v.IsJson .members [] a
  | .events, v => ∃ a, v.IsJson (.list SpanEvent.decoder) [] a
  | .links, v => ∃ a, v.IsJson (.list SpanLink.decoder) [] a

namespace ColumnRule

def Valid : ColumnRule → ColumnValue → Prop
  | .time, .integer n | .duration, .integer n => 0 ≤ n.toInt
  | .int32, .integer n => Int32.minValue.toInt ≤ n.toInt ∧ n.toInt ≤ Int32.maxValue.toInt
  | .counter, .integer n => 0 ≤ n.toInt ∧ n.toInt < UInt32.size
  | .duration, .null | .optionalText, .null | .int32, .null | .counter, .null => True
  | .text, .text _ | .optionalText, .text _ => True
  | .document kind, v => kind.Stands v
  | _, _ => False

def fault (index : Nat) : ColumnRule → ColumnValue → RowError
  | .time, .integer n | .duration, .integer n | .int32, .integer n | .counter, .integer n =>
    .outOfRange index n
  | .time, v | .duration, v | .int32, v | .counter, v =>
    .typeMismatch index "INTEGER" v.storageClass
  | .document _, .text _ | .document _, .blob _ => .invalidJson index
  | .text, v | .optionalText, v | .document _, v => .typeMismatch index "TEXT" v.storageClass

end ColumnRule

def RowError.column? : RowError → Option Nat
  | .columnCount _ _ => none
  | .typeMismatch index _ _ | .outOfRange index _ | .invalidJson index | .unknownTagType index _ =>
    some index

theorem ColumnRule.column?_fault (rule : ColumnRule) (index : Nat) (v : ColumnValue) :
    (rule.fault index v).column? = some index := by
  cases rule <;> cases v <;> rfl

/-! ## Reading a column -/

/-- What reading a column gives: the values it means, or the error for what it may not hold. -/
structure ColumnRule.Reads (rule : ColumnRule) (index : Nat) (v : ColumnValue) {α : Type}
    (means : α → Prop) (x : Except RowError α) : Prop where
  ok_iff (a : α) : x = .ok a ↔ means a
  valid_iff : rule.Valid v ↔ ∃ a, means a
  error : ¬rule.Valid v → x = .error (rule.fault index v)

/-- What a row holds in a column; nothing is null. -/
def Row.at (r : Row) (index : Nat) : ColumnValue :=
  (r.columns[index]?).getD .null

namespace Word

theorem exists_uint64?_iff (n : Int64) : (∃ w, uint64? n.toInt = some w) ↔ 0 ≤ n.toInt := by
  have := n.toInt_lt
  have size : (UInt64.size : Int) = 2 ^ 64 := rfl
  unfold uint64?
  split <;> simp <;> omega

theorem exists_int32?_iff (n : Int) :
    (∃ w, int32? n = some w) ↔ Int32.minValue.toInt ≤ n ∧ n ≤ Int32.maxValue.toInt := by
  unfold int32?
  split <;> simp_all

theorem exists_uint32?_iff (n : Int) : (∃ w, uint32? n = some w) ↔ 0 ≤ n ∧ n < UInt32.size := by
  unfold uint32?
  split <;> simp_all

end Word

namespace ColumnRule.Reads

variable {rule : ColumnRule} {index : Nat} {v : ColumnValue} {α : Type} {means : α → Prop}

theorem ok {a : α} (valid : rule.Valid v) (only : ∀ b, means b ↔ b = a) :
    rule.Reads index v means (.ok a) where
  ok_iff b := by rw [only, Except.ok.injEq, eq_comm]
  valid_iff := iff_of_true valid ⟨a, (only a).2 rfl⟩
  error invalid := absurd valid invalid

theorem of_fault (invalid : ¬rule.Valid v) (nothing : ∀ a, ¬means a) :
    rule.Reads index v means (.error (rule.fault index v)) where
  ok_iff a := iff_of_false (by simp) (nothing a)
  valid_iff := iff_of_false invalid (by simpa using nothing)
  error _ := rfl

theorem checked {o : Option α} (given : ∀ a, o = some a ↔ means a)
    (valid : rule.Valid v ↔ ∃ a, o = some a) :
    rule.Reads index v means (o.elim (.error (rule.fault index v)) .ok) where
  ok_iff a := by cases o <;> simp [← given]
  valid_iff := by simp only [valid, given]
  error invalid := by
    cases o with
    | none => rfl
    | some a => exact absurd (valid.2 ⟨a, rfl⟩) invalid

theorem fitting {n : Int64} {word? : Int → Option α}
    (given : ∀ a, word? n.toInt = some a ↔ means a)
    (valid : rule.Valid v ↔ ∃ a, word? n.toInt = some a)
    (fault : rule.fault index v = .outOfRange index n) :
    rule.Reads index v means (Row.fitting word? index n) := by
  have same : Row.fitting word? index n = (word? n.toInt).elim (.error (.outOfRange index n)) .ok := by
    unfold Row.fitting
    cases word? n.toInt <;> rfl
  rw [same, ← fault]
  exact checked given valid

theorem orInvalid {o : Option α} (given : ∀ a, o = some a ↔ means a)
    (valid : rule.Valid v ↔ ∃ a, o = some a) (fault : rule.fault index v = .invalidJson index) :
    rule.Reads index v means (Row.json.orInvalid index o) := by
  have same : Row.json.orInvalid index o = o.elim (.error (.invalidJson index)) .ok := by
    cases o <;> rfl
  rw [same, ← fault]
  exact checked given valid

end ColumnRule.Reads

namespace Row

variable {r : Row} {index : Nat}

theorem get_eq_at (inside : index < r.columns.length) : r.get index = .ok (r.at index) := by
  simp [get, Row.at, inside]

theorem reads_uint64 (inside : index < r.columns.length) :
    ColumnRule.time.Reads index (r.at index) (r.at index).IsTime (r.uint64 index) := by
  unfold uint64 int64
  rw [get_eq_at inside]
  cases r.at index with
  | integer n =>
    exact .fitting (fun _ => Word.uint64?_eq_some_iff) (Word.exists_uint64?_iff n).symm rfl
  | _ => exact .of_fault id fun _ => id

theorem reads_duration (start stop : UInt64) (inside : SpanColumn.duration < r.columns.length) :
    ColumnRule.duration.Reads SpanColumn.duration (r.at SpanColumn.duration)
      ((r.at SpanColumn.duration).IsDuration start stop) (r.duration start stop) := by
  unfold duration int64?
  rw [get_eq_at inside]
  cases r.at SpanColumn.duration with
  -- Without a stored duration the time from start to end counts, or zero.
  | null =>
    refine .ok trivial fun w => ?_
    rw [ColumnValue.IsDuration, ← UInt64.toNat_inj]
    split
    · next le =>
      rw [UInt64.toNat_sub_of_le _ _ le]
      rw [UInt64.le_iff_toNat_le] at le
      omega
    · next less =>
      rw [UInt64.le_iff_toNat_le] at less
      have zero : (0 : UInt64).toNat = 0 := rfl
      omega
  | integer n =>
    exact .fitting (fun _ => Word.uint64?_eq_some_iff) (Word.exists_uint64?_iff n).symm rfl
  | _ => exact .of_fault id fun _ => id

theorem reads_text (inside : index < r.columns.length) :
    ColumnRule.text.Reads index (r.at index) (r.at index).IsText (r.text index) := by
  unfold text
  rw [get_eq_at inside]
  cases r.at index with
  | text s => exact .ok trivial fun _ => Iff.rfl
  | _ => exact .of_fault id fun _ => id

theorem reads_text? (inside : index < r.columns.length) :
    ColumnRule.optionalText.Reads index (r.at index) (r.at index).IsOptionalText
      (r.text? index) := by
  unfold text?
  rw [get_eq_at inside]
  cases r.at index with
  | null => exact .ok trivial fun _ => Iff.rfl
  | text s => exact .ok trivial fun _ => Iff.rfl
  | _ => exact .of_fault id fun _ => id

theorem reads_int32 (inside : index < r.columns.length) :
    ColumnRule.int32.Reads index (r.at index) (r.at index).IsInt32 (r.int32 index) := by
  unfold int32 int64?
  rw [get_eq_at inside]
  cases r.at index with
  | null => exact .ok trivial fun _ => Iff.rfl
  | integer n =>
    exact .fitting (fun _ => Word.int32?_eq_some_iff) (Word.exists_int32?_iff n.toInt).symm rfl
  | _ => exact .of_fault id fun _ => id

theorem reads_count (inside : index < r.columns.length) :
    ColumnRule.counter.Reads index (r.at index) (r.at index).IsCounter (r.count index) := by
  unfold count int64?
  rw [get_eq_at inside]
  cases r.at index with
  | null => exact .ok trivial fun _ => Iff.rfl
  | integer n =>
    exact .fitting (fun _ => Word.uint32?_eq_some_iff) (Word.exists_uint32?_iff n.toInt).symm rfl
  | _ => exact .of_fault id fun _ => id

theorem reads_json {α : Type} {kind : Document} {d : Decoder α} {empty : α}
    (stands : ∀ v, kind.Stands v ↔ ∃ a, v.IsJson d empty a) (inside : index < r.columns.length) :
    (ColumnRule.document kind).Reads index (r.at index) ((r.at index).IsJson d empty)
      (r.json index empty d) := by
  unfold json
  rw [get_eq_at inside]
  have valid : (ColumnRule.document kind).Valid (r.at index) ↔ ∃ a, (r.at index).IsJson d empty a :=
    stands _
  generalize r.at index = v at valid ⊢
  cases v with
  | null => exact .ok (valid.2 ⟨empty, rfl⟩) fun _ => Iff.rfl
  | text s =>
    -- The empty text is no JSON, but it may stand in the column like nothing at all.
    by_cases blank : s = ""
    · have only (a : α) : (ColumnValue.text s).IsJson d empty a ↔ a = empty := by
        simp only [ColumnValue.IsJson, if_pos blank]
      simpa only [bind, Except.bind, if_pos blank] using
        ColumnRule.Reads.ok (valid.2 ⟨empty, (only _).2 rfl⟩) only
    · have given (a : α) : d.read? s = some a ↔ (ColumnValue.text s).IsJson d empty a := by
        simp only [ColumnValue.IsJson, if_neg blank]
      simpa only [bind, Except.bind, if_neg blank] using
        ColumnRule.Reads.orInvalid given (by simpa only [given] using valid) rfl
  | blob bytes => exact .orInvalid (fun _ => Iff.rfl) valid rfl
  | _ => exact .of_fault (fun invalid => (valid.1 invalid).elim fun _ => id) fun _ => id

theorem reads_attributes (inside : index < r.columns.length) :
    (ColumnRule.document .attributes).Reads index (r.at index) ((r.at index).IsJson .members [])
      (r.json index [] .members) :=
  reads_json (fun _ => Iff.rfl) inside

theorem reads_events (inside : index < r.columns.length) :
    (ColumnRule.document .events).Reads index (r.at index)
      ((r.at index).IsJson (.list SpanEvent.decoder) [])
      (r.json index [] (.list SpanEvent.decoder)) :=
  reads_json (fun _ => Iff.rfl) inside

theorem reads_links (inside : index < r.columns.length) :
    (ColumnRule.document .links).Reads index (r.at index)
      ((r.at index).IsJson (.list SpanLink.decoder) []) (r.json index [] (.list SpanLink.decoder)) :=
  reads_json (fun _ => Iff.rfl) inside

end Row

/-! ## Reading columns one after the other -/

structure Reading where
  index : Nat
  rule : ColumnRule
  deriving DecidableEq, Repr

def Reading.Passes (reading : Reading) (r : Row) : Prop :=
  reading.rule.Valid (r.at reading.index)

def Reading.fault (reading : Reading) (r : Row) : RowError :=
  reading.rule.fault reading.index (r.at reading.index)

/-- What comes of readings that are made in turn, up to the first that does not pass. -/
inductive Row.Decides (r : Row) {α : Type} : List Reading → Except RowError α → Prop where
  | done (a : α) : r.Decides [] (.ok a)
  | passed {q : Reading} {rest : List Reading} {x : Except RowError α} : q.Passes r →
      r.Decides rest x → r.Decides (q :: rest) x
  | failed {q : Reading} {rest : List Reading} : ¬q.Passes r →
      r.Decides (q :: rest) (.error (q.fault r))

namespace Row.Decides

variable {r : Row} {α β : Type} {readings : List Reading} {x : Except RowError α}

theorem bind {rule : ColumnRule} {index : Nat} {means : β → Prop} {read : Except RowError β}
    {f : β → Except RowError α} (reads : rule.Reads index (r.at index) means read)
    (next : ∀ b, r.Decides readings (f b)) : r.Decides (⟨index, rule⟩ :: readings) (read >>= f) := by
  by_cases valid : rule.Valid (r.at index)
  · obtain ⟨b, meant⟩ := reads.valid_iff.1 valid
    rw [(reads.ok_iff b).2 meant]
    exact .passed valid (next b)
  · rw [reads.error valid]
    exact .failed valid

theorem ok_iff (decides : r.Decides readings x) : (∃ a, x = .ok a) ↔ ∀ q ∈ readings, q.Passes r := by
  induction decides with
  | done a => simp
  | passed valid _ ih => simpa [valid] using ih
  | failed invalid => simp [invalid]

theorem exists_failed {e : RowError} (decides : r.Decides readings x) (failed : x = .error e) :
    ∃ before q after, readings = before ++ q :: after ∧ (∀ p ∈ before, p.Passes r) ∧
      ¬q.Passes r ∧ e = q.fault r := by
  -- What passed on the way to the failure stands before it.
  induction decides with
  | done a => cases failed
  | @passed q rest x valid _ ih =>
    obtain ⟨before, p, after, parts, passes, invalid, same⟩ := ih failed
    exact ⟨q :: before, p, after, by rw [parts, List.cons_append],
      List.forall_mem_cons.2 ⟨valid, passes⟩, invalid, same⟩
  | @failed q rest invalid =>
    cases failed
    exact ⟨[], q, rest, rfl, by simp, invalid, rfl⟩

end Row.Decides

/-! ## Rows of spans -/

/-- The columns of a span in the order in which they are read. -/
def SpanColumn.readings : List Reading :=
  [ ⟨startTime, .time⟩
  , ⟨endTime, .time⟩
  , ⟨duration, .duration⟩
  , ⟨spanId, .text⟩
  , ⟨traceId, .text⟩
  , ⟨traceState, .optionalText⟩
  , ⟨parentSpanId, .optionalText⟩
  , ⟨name, .text⟩
  , ⟨kind, .int32⟩
  , ⟨statusCode, .int32⟩
  , ⟨statusMessage, .optionalText⟩
  , ⟨ingestionTime, .time⟩
  , ⟨attributes, .document .attributes⟩
  , ⟨droppedAttributes, .counter⟩
  , ⟨events, .document .events⟩
  , ⟨droppedEvents, .counter⟩
  , ⟨links, .document .links⟩
  , ⟨droppedLinks, .counter⟩
  , ⟨scopeName, .optionalText⟩
  , ⟨scopeVersion, .optionalText⟩
  , ⟨scopeAttributes, .document .attributes⟩
  , ⟨scopeDroppedAttributes, .counter⟩
  , ⟨resourceAttributes, .document .attributes⟩
  , ⟨resourceDroppedAttributes, .counter⟩ ]

open Row in
theorem Span.decides_ofRow {r : Row} (whole : r.columns.length = spanColumns.length) :
    r.Decides SpanColumn.readings (Span.ofRow r) := by
  have inside {index : Nat} (lt : index < spanColumns.length) : index < r.columns.length := by
    rwa [whole]
  have counted : r.expectColumns spanColumns.length = .ok () :=
    expectColumns_eq_ok_iff.2 whole
  unfold Span.ofRow
  rw [counted]
  change r.Decides SpanColumn.readings (r.uint64 SpanColumn.startTime >>= _)
  -- Each step takes off the next column of the list, which has to be the one that is read next.
  refine .bind (reads_uint64 (inside (by decide))) fun start => ?_
  refine .bind (reads_uint64 (inside (by decide))) fun stop => ?_
  refine .bind (reads_duration _ _ (inside (by decide))) fun _ => ?_
  refine .bind (reads_text (inside (by decide))) fun _ => ?_
  refine .bind (reads_text (inside (by decide))) fun _ => ?_
  refine .bind (reads_text? (inside (by decide))) fun _ => ?_
  refine .bind (reads_text? (inside (by decide))) fun _ => ?_
  refine .bind (reads_text (inside (by decide))) fun _ => ?_
  refine .bind (reads_int32 (inside (by decide))) fun _ => ?_
  refine .bind (reads_int32 (inside (by decide))) fun _ => ?_
  refine .bind (reads_text? (inside (by decide))) fun _ => ?_
  refine .bind (reads_uint64 (inside (by decide))) fun _ => ?_
  refine .bind (reads_attributes (inside (by decide))) fun _ => ?_
  refine .bind (reads_count (inside (by decide))) fun _ => ?_
  refine .bind (reads_events (inside (by decide))) fun _ => ?_
  refine .bind (reads_count (inside (by decide))) fun _ => ?_
  refine .bind (reads_links (inside (by decide))) fun _ => ?_
  refine .bind (reads_count (inside (by decide))) fun _ => ?_
  refine .bind (reads_text? (inside (by decide))) fun _ => ?_
  refine .bind (reads_text? (inside (by decide))) fun _ => ?_
  refine .bind (reads_attributes (inside (by decide))) fun _ => ?_
  refine .bind (reads_count (inside (by decide))) fun _ => ?_
  refine .bind (reads_attributes (inside (by decide))) fun _ => ?_
  refine .bind (reads_count (inside (by decide))) fun _ => ?_
  exact .done _

structure Row.Spells (r : Row) (s : Span) : Prop where
  spanId : (r.value "spans.span_id").IsText s.spanId
  traceId : (r.value "spans.trace_id").IsText s.traceId
  traceState : (r.value "spans.trace_state").IsOptionalText s.traceState
  parentSpanId : (r.value "spans.parent_span_id").IsOptionalText s.parentSpanId
  name : (r.value "spans.name").IsText s.name
  kind : (r.value "spans.kind").IsInt32 s.kind
  startTime : (r.value "spans.start_time_unix_nano").IsTime s.startTimeUnixNano
  endTime : (r.value "spans.end_time_unix_nano").IsTime s.endTimeUnixNano
  droppedAttributes :
    (r.value "spans.dropped_attributes_count").IsCounter s.droppedAttributesCount
  statusMessage : (r.value "spans.status_message").IsOptionalText s.status.message
  statusCode : (r.value "spans.status_code").IsInt32 s.status.code
  droppedEvents : (r.value "spans.dropped_events_count").IsCounter s.droppedEventsCount
  droppedLinks : (r.value "spans.dropped_links_count").IsCounter s.droppedLinksCount
  duration :
    (r.value "spans.duration_nano").IsDuration s.startTimeUnixNano s.endTimeUnixNano s.durationNano
  ingestionTime : (r.value "spans.ingestion_time_unix_nano").IsTime s.ingestionTimeUnixNano
  attributes : (r.value "spans.span_attributes").IsJson .members [] s.attributes
  scopeName : (r.value "spans.scope_name").IsOptionalText s.scope.name
  scopeVersion : (r.value "spans.scope_version").IsOptionalText s.scope.version
  scopeDroppedAttributes :
    (r.value "spans.scope_dropped_attributes_count").IsCounter s.scope.droppedAttributesCount
  scopeAttributes : (r.value "spans.scope_attributes").IsJson .members [] s.scope.attributes
  resourceDroppedAttributes :
    (r.value "spans.resource_dropped_attributes_count").IsCounter s.resource.droppedAttributesCount
  resourceAttributes :
    (r.value "spans.resource_attributes").IsJson .members [] s.resource.attributes
  events : (r.value "spans.events").IsJson (.list SpanEvent.decoder) [] s.events
  links : (r.value "spans.links").IsJson (.list SpanLink.decoder) [] s.links

open Row in
theorem Row.holds_iff {r : Row} {s : Span} :
    r.Holds s ↔ r.columns.length = spanColumns.length ∧ r.Spells s := by
  by_cases whole : r.columns.length = spanColumns.length
  · have inside {index : Nat} (lt : index < spanColumns.length) : index < r.columns.length := by
      rwa [whole]
    -- A name's place among the columns is the number that the field is read from.
    have time {index : Nat} {w : UInt64} (lt : index < spanColumns.length) :=
      (reads_uint64 (inside lt)).ok_iff w
    have duration := (reads_duration s.startTimeUnixNano s.endTimeUnixNano
      (inside (by decide))).ok_iff s.durationNano
    have text {index : Nat} {t : String} (lt : index < spanColumns.length) :=
      (reads_text (inside lt)).ok_iff t
    have optionalText {index : Nat} {t : Option String} (lt : index < spanColumns.length) :=
      (reads_text? (inside lt)).ok_iff t
    have int32 {index : Nat} {w : Int32} (lt : index < spanColumns.length) :=
      (reads_int32 (inside lt)).ok_iff w
    have counter {index : Nat} {w : UInt32} (lt : index < spanColumns.length) :=
      (reads_count (inside lt)).ok_iff w
    have attributes {index : Nat} {a : Attributes} (lt : index < spanColumns.length) :=
      (reads_attributes (inside lt)).ok_iff a
    have events := (reads_events (inside (by decide : SpanColumn.events < _))).ok_iff s.events
    have links := (reads_links (inside (by decide : SpanColumn.links < _))).ok_iff s.links
    constructor
    · intro holds
      exact ⟨whole, {
        startTime := (time (by decide)).1 holds.startTime
        endTime := (time (by decide)).1 holds.endTime
        spanId := (text (by decide)).1 holds.spanId
        traceId := (text (by decide)).1 holds.traceId
        traceState := (optionalText (by decide)).1 holds.traceState
        parentSpanId := (optionalText (by decide)).1 holds.parentSpanId
        name := (text (by decide)).1 holds.name
        kind := (int32 (by decide)).1 holds.kind
        statusCode := (int32 (by decide)).1 holds.statusCode
        statusMessage := (optionalText (by decide)).1 holds.statusMessage
        ingestionTime := (time (by decide)).1 holds.ingestionTime
        attributes := (attributes (by decide)).1 holds.attributes
        droppedAttributes := (counter (by decide)).1 holds.droppedAttributes
        events := events.1 holds.events
        droppedEvents := (counter (by decide)).1 holds.droppedEvents
        links := links.1 holds.links
        droppedLinks := (counter (by decide)).1 holds.droppedLinks
        scopeName := (optionalText (by decide)).1 holds.scopeName
        scopeVersion := (optionalText (by decide)).1 holds.scopeVersion
        scopeAttributes := (attributes (by decide)).1 holds.scopeAttributes
        scopeDroppedAttributes := (counter (by decide)).1 holds.scopeDroppedAttributes
        resourceAttributes := (attributes (by decide)).1 holds.resourceAttributes
        resourceDroppedAttributes := (counter (by decide)).1 holds.resourceDroppedAttributes
        duration := duration.1 holds.duration
      }⟩
    · rintro ⟨_, spells⟩
      exact {
        count := whole
        startTime := (time (by decide)).2 spells.startTime
        endTime := (time (by decide)).2 spells.endTime
        spanId := (text (by decide)).2 spells.spanId
        traceId := (text (by decide)).2 spells.traceId
        traceState := (optionalText (by decide)).2 spells.traceState
        parentSpanId := (optionalText (by decide)).2 spells.parentSpanId
        name := (text (by decide)).2 spells.name
        kind := (int32 (by decide)).2 spells.kind
        statusCode := (int32 (by decide)).2 spells.statusCode
        statusMessage := (optionalText (by decide)).2 spells.statusMessage
        ingestionTime := (time (by decide)).2 spells.ingestionTime
        attributes := (attributes (by decide)).2 spells.attributes
        droppedAttributes := (counter (by decide)).2 spells.droppedAttributes
        events := events.2 spells.events
        droppedEvents := (counter (by decide)).2 spells.droppedEvents
        links := links.2 spells.links
        droppedLinks := (counter (by decide)).2 spells.droppedLinks
        scopeName := (optionalText (by decide)).2 spells.scopeName
        scopeVersion := (optionalText (by decide)).2 spells.scopeVersion
        scopeAttributes := (attributes (by decide)).2 spells.scopeAttributes
        scopeDroppedAttributes := (counter (by decide)).2 spells.scopeDroppedAttributes
        resourceAttributes := (attributes (by decide)).2 spells.resourceAttributes
        resourceDroppedAttributes := (counter (by decide)).2 spells.resourceDroppedAttributes
        duration := duration.2 spells.duration
      }
  · exact ⟨fun holds => absurd holds.count whole, fun spelt => absurd spelt.1 whole⟩

theorem Span.ofRow_of_count {r : Row} (other : r.columns.length ≠ spanColumns.length) :
    Span.ofRow r = .error (.columnCount spanColumns.length r.columns.length) := by
  have refused : r.expectColumns spanColumns.length =
      .error (.columnCount spanColumns.length r.columns.length) := by
    rw [Row.expectColumns, if_neg other]
  unfold Span.ofRow
  rw [refused]
  rfl

theorem Span.ofRow_eq_columnCount_iff {r : Row} {expected actual : Nat} :
    Span.ofRow r = .error (.columnCount expected actual) ↔
      r.columns.length ≠ spanColumns.length ∧ expected = spanColumns.length ∧
        actual = r.columns.length := by
  by_cases whole : r.columns.length = spanColumns.length
  · refine iff_of_false (fun failed => ?_) fun other => other.1 whole
    obtain ⟨_, q, _, _, _, _, same⟩ := (decides_ofRow whole).exists_failed failed
    have column : (RowError.columnCount expected actual).column? = some q.index := by
      rw [same]
      exact q.rule.column?_fault _ _
    cases column
  · simp [ofRow_of_count whole, whole, eq_comm]

/--
A row that does not have as many columns as a span is counted out, and no other row is. Any other
row is a span if its columns hold what they may, and then each field is what its own column means;
or else the error is that of the first column, in the order of reading, that may not hold what it
holds. Every column is read once.
-/
theorem Span.ofRow_reports_first_invalid (r : Row) :
    (∀ expected actual, Span.ofRow r = .error (.columnCount expected actual) ↔
      r.columns.length ≠ 24 ∧ expected = 24 ∧ actual = r.columns.length) ∧
    (r.columns.length = 24 →
      ((∃ s, Span.ofRow r = .ok s) ↔ ∀ q ∈ SpanColumn.readings, q.Passes r) ∧
      (∀ s, Span.ofRow r = .ok s ↔ r.Spells s) ∧
      ∀ e, Span.ofRow r = .error e → ∃ before q after,
        SpanColumn.readings = before ++ q :: after ∧ (∀ p ∈ before, p.Passes r) ∧
        ¬q.Passes r ∧ e = q.fault r ∧ e.column? = some q.index) ∧
    SpanColumn.readings.map Reading.index =
      [6, 7, 13, 0, 1, 2, 3, 4, 5, 10, 9, 14, 15, 8, 22, 11, 23, 12, 16, 17, 19, 18, 21, 20] ∧
    (SpanColumn.readings.map Reading.index).Perm (List.range 24) := by
  refine ⟨fun _ _ => ofRow_eq_columnCount_iff, fun whole => ⟨?_, fun s => ?_, fun e failed => ?_⟩,
    rfl, by decide⟩
  · exact (decides_ofRow whole).ok_iff
  · rw [ofRow_eq_ok_iff, Row.holds_iff]
    exact and_iff_right whole
  · obtain ⟨before, q, after, parts, passed, invalid, same⟩ :=
      (decides_ofRow whole).exists_failed failed
    exact ⟨before, q, after, parts, passed, invalid, same,
      same ▸ q.rule.column?_fault q.index (r.at q.index)⟩

/-- A row without trace and name, with a kind beyond 32 bits, and with a duration below zero. -/
def Row.faulty : Row where
  columns :=
    [ .text "a", .null, .null, .null, .integer 7, .integer 2147483648, .integer 10, .integer 5
    , .integer (-1), .null, .null, .null, .null, .integer (-1), .null, .text "\x7b", .null, .null
    , .null, .null, .null, .null, .null, .null ]

/-- The duration is read before all the others. -/
theorem Span.ofRow_reports_first_invalid_faulty :
    Row.faulty.columns.length = 24 ∧
      Span.ofRow .faulty = .error (.outOfRange SpanColumn.duration (-1)) ∧
      ∃ before q after, SpanColumn.readings = before ++ q :: after ∧
        (∀ p ∈ before, p.Passes .faulty) ∧ ¬q.Passes .faulty ∧
        .outOfRange SpanColumn.duration (-1) = q.fault .faulty ∧
        (RowError.outOfRange SpanColumn.duration (-1)).column? = some q.index :=
  have reported : Span.ofRow .faulty = .error (.outOfRange SpanColumn.duration (-1)) := rfl
  ⟨rfl, reported, ((ofRow_reports_first_invalid .faulty).2.1 rfl).2.2 _ reported⟩

end TraceQuery
